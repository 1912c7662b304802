import TenderQuery.Text.Case
import TenderQuery.Proofs.Text.Letters

/-!
# What lower case keeps

Every character has its own share of the lower case of a text, whose length does not depend on what stands around
it. A blank or a quote has itself as its share and is in no other (`exists_lowerFrom_cons`), so
they stand in the lower case exactly where they stand in the text.
-/
set_option autoImplicit false
namespace TenderQuery.Text

/-- Characters that stand for themselves only in lower case. -/
def keptByLower : List Char := [' ', '"']

/-! ## One character -/

theorem eq_of_simpleLower_mem {c : Char} (h : simpleLower c ∈ keptByLower) : simpleLower c = c := by
  by_cases hc : c.toNat < 128
  · have hascii : ∀ n < 128, simpleLower (Char.ofNat n) ∈ keptByLower →
        simpleLower (Char.ofNat n) = Char.ofNat n := by decide
    exact @of_lt_128 (fun c => simpleLower c ∈ keptByLower → simpleLower c = c) hascii c hc h
  · have hcodes : ∀ d ∈ keptByLower, d.toNat ≠ 0 ∧ d.toNat < 128 := by decide
    have hruns : ∀ d ∈ keptByLower, ∀ run ∈ lowerRuns, (run.first : Int) ≤ d.toNat - run.shift →
        (d.toNat : Int) - run.shift ≤ run.last → ((d.toNat : Int) - run.shift).toNat < 128 := by
      decide +kernel
    obtain ⟨hzero, hlt⟩ := hcodes _ h
    have hruns' := hruns _ h
    unfold simpleLower at hzero hlt hruns'
    rw [if_neg hc] at hzero hlt hruns'
    have hcode := of_mapByRuns (P := fun n => n < 128) hzero hlt hruns' (toNat_ofNat_eq hzero rfl)
    exact absurd hcode hc

theorem toLower_eq_simpleLower {c : Char} (hc : c.toNat < 128) : c.toLower = simpleLower c := by
  unfold simpleLower
  rw [if_pos hc]

theorem eq_of_mem_lowerChar {c d : Char} (hd : d ∈ keptByLower) (h : d ∈ lowerChar c) : c = d := by
  unfold lowerChar at h
  split at h
  · have hdotted : ∀ d ∈ ['i', Char.ofNat 0x307], d ∉ keptByLower := by decide
    exact absurd hd (hdotted d h)
  · rw [List.mem_singleton] at h
    subst h
    exact (eq_of_simpleLower_mem hd).symm

theorem lowerChar_ne_nil (c : Char) : lowerChar c ≠ [] := by
  unfold lowerChar
  split <;> exact List.cons_ne_nil _ _

theorem lowerChar_of_lt {c : Char} (hc : c.toNat < 128) : lowerChar c = [c.toLower] := by
  unfold lowerChar
  rw [if_neg (by omega), toLower_eq_simpleLower hc]

theorem lowerChar_of_mem_keptByLower {c : Char} (hc : c ∈ keptByLower) : lowerChar c = [c] := by
  have hkept : ∀ d ∈ keptByLower, lowerChar d = [d] := by decide
  exact hkept c hc

/-! ## Texts -/

/-- The share of a character is as long as its lower case alone, and holds no blank and no quote but itself. -/
structure IsShare (c : Char) (share : List Char) : Prop where
  length : share.length = (lowerChar c).length
  kept : ∀ d ∈ keptByLower, d ∈ share → c = d
  keeps : c ∈ keptByLower → share = [c]

theorem isShare_lowerChar (c : Char) : IsShare c (lowerChar c) :=
  ⟨rfl, fun _ hd h => eq_of_mem_lowerChar hd h, lowerChar_of_mem_keptByLower⟩

theorem isShare_sigma {c : Char} (hc : c.toNat = 0x3A3) (ends : Bool) :
    IsShare c [Char.ofNat (if ends then 0x3C2 else 0x3C3)] := by
  obtain rfl : c = Char.ofNat 0x3A3 := by rw [← hc, ← char_eq_ofNat]
  have hsigma : ∀ ends : Bool, ∀ d ∈ keptByLower, d ∉ [Char.ofNat (if ends then 0x3C2 else 0x3C3)] := by decide
  exact ⟨rfl, fun d hd h => absurd h (hsigma ends d hd), fun h => absurd h (by decide)⟩

theorem exists_lowerFrom_cons (after : Bool) (c : Char) (s : List Char) :
    ∃ share after', IsShare c share ∧ lowerFrom after (c :: s) = share ++ lowerFrom after' s := by
  rw [lowerFrom]
  split
  · rename_i hc
    exact ⟨[c.toLower], _, lowerChar_of_lt hc ▸ isShare_lowerChar c, rfl⟩
  · split
    · rename_i hc
      exact ⟨_, true, isShare_sigma hc _, rfl⟩
    · exact ⟨lowerChar c, _, isShare_lowerChar c, rfl⟩

theorem length_lowerFrom (after : Bool) (s : List Char) :
    (lowerFrom after s).length = (s.flatMap lowerChar).length := by
  induction s generalizing after with
  | nil => rfl
  | cons c s ih =>
    obtain ⟨share, after', hshare, heq⟩ := exists_lowerFrom_cons after c s
    rw [heq, List.length_append, hshare.length, ih, List.flatMap_cons, List.length_append]

/-- A text that goes on has a longer lower case. -/
theorem length_lower_lt_append (s : List Char) (c : Char) (more : List Char) :
    (lower s).length < (lower (s ++ c :: more)).length := by
  have hpos : 0 < (lowerChar c).length := List.length_pos_iff.mpr (lowerChar_ne_nil c)
  unfold lower
  rw [length_lowerFrom, length_lowerFrom, List.flatMap_append, List.flatMap_cons, List.length_append,
    List.length_append]
  omega

theorem mem_lowerFrom_iff {d : Char} (hd : d ∈ keptByLower) (after : Bool) (s : List Char) :
    d ∈ lowerFrom after s ↔ d ∈ s := by
  induction s generalizing after with
  | nil => exact Iff.rfl
  | cons c s ih =>
    obtain ⟨share, after', hshare, heq⟩ := exists_lowerFrom_cons after c s
    rw [heq, List.mem_append, List.mem_cons, ih]
    refine or_congr_left ⟨fun h => (hshare.kept d hd h).symm, ?_⟩
    rintro rfl
    rw [hshare.keeps hd]
    exact List.mem_singleton_self d

/-- Lower case that begins with a blank or a quote is that of a text that begins with it. -/
theorem exists_of_lowerFrom_eq_cons {d : Char} (hd : d ∈ keptByLower) {after : Bool} {s low : List Char}
    (h : lowerFrom after s = d :: low) : ∃ after' t, s = d :: t ∧ lowerFrom after' t = low := by
  cases s with
  | nil => cases h
  | cons c s =>
    obtain ⟨share, after', hshare, heq⟩ := exists_lowerFrom_cons after c s
    rw [heq] at h
    have hne : share ≠ [] := by
      rw [← List.length_pos_iff, hshare.length, List.length_pos_iff]
      exact lowerChar_ne_nil c
    obtain ⟨e, share, rfl⟩ := List.exists_cons_of_ne_nil hne
    obtain ⟨rfl, htail⟩ := List.cons.inj h
    obtain rfl := hshare.kept e hd List.mem_cons_self
    have hsingle := hshare.keeps hd
    rw [(List.cons.inj hsingle).2] at htail
    exact ⟨after', s, rfl, htail⟩

/-- ASCII text is put into lower case letter by letter, whatever follows it. -/
theorem exists_lowerFrom_ascii {a : List Char} (ha : ∀ c ∈ a, c.toNat < 128) (after : Bool) :
    ∃ after', ∀ s, lowerFrom after (a ++ s) = a.map Char.toLower ++ lowerFrom after' s := by
  induction a generalizing after with
  | nil => exact ⟨after, fun _ => rfl⟩
  | cons c a ih =>
    rw [List.forall_mem_cons] at ha
    obtain ⟨after', htail⟩ := ih ha.2 (if isCaseIgnorable c then after else c.isAlpha)
    refine ⟨after', fun s => ?_⟩
    rw [List.cons_append, lowerFrom, if_pos ha.1, htail]
    rfl

end TenderQuery.Text
