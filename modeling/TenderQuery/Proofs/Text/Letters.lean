import TenderQuery.Text.Blank
import TenderQuery.Text.Fold

/-!
# Letters and their cases

What the case tables say about the characters that matter to a statement: a letter that matches an ASCII
letter is part of a word, and upper case makes no blank and no semicolon out of another character.

Each fact about a table is decided run by run (`mapByRuns_cases`); code points below 128 are gone through
one by one.
-/
set_option autoImplicit false
namespace TenderQuery.Text

/-! ## Code points -/

theorem char_eq_ofNat (c : Char) : c = Char.ofNat c.toNat := (Char.ofNat_toNat c).symm

theorem of_lt_128 {P : Char → Prop} (h : ∀ n < 128, P (Char.ofNat n)) {c : Char} (hc : c.toNat < 128) :
    P c := by
  rw [char_eq_ofNat c]
  exact h _ hc

/-- A property of the characters of a text is decided along the text, not over all characters there are. -/
instance decidableForallMemText (P : Char → Prop) [DecidablePred P] (s : List Char) : Decidable (∀ c ∈ s, P c) :=
  List.decidableBAll P s

theorem toNat_ofNat_eq {n m : Nat} (hm : m ≠ 0) (h : (Char.ofNat n).toNat = m) : n = m := by
  by_cases hv : n.isValidChar
  · rw [← h, Char.ofNat, dif_pos hv]
    rfl
  · rw [Char.ofNat, dif_neg hv] at h
    exact absurd h.symm hm

/-- Where a run maps a code point. -/
def CaseRun.image (run : CaseRun) (n : Nat) : Nat := ((n : Int) + run.shift).toNat

theorem mapByRuns_eq_or (runs : List CaseRun) (n : Nat) :
    mapByRuns runs n = n ∨ ∃ run ∈ runs, run.first ≤ n ∧ n ≤ run.last ∧ (n - run.first) % run.step = 0 ∧
      mapByRuns runs n = run.image n := by
  unfold mapByRuns
  split
  · rename_i run hfind
    have hrange := List.find?_some hfind
    simp only [Bool.and_eq_true, decide_eq_true_eq, beq_iff_eq] at hrange
    exact .inr ⟨run, List.mem_of_find?_eq_some hfind, hrange.1.1, hrange.1.2, hrange.2, rfl⟩
  · exact .inl rfl

theorem mapByRuns_cases {runs : List CaseRun} {n m : Nat} (hm : m ≠ 0) (h : mapByRuns runs n = m) :
    n = m ∨ ∃ run ∈ runs, run.first ≤ n ∧ n ≤ run.last ∧ (n : Int) + run.shift = m := by
  obtain heq | ⟨run, hmem, hfirst, hlast, -, heq⟩ := mapByRuns_eq_or runs n
  · exact .inl (heq.symm.trans h)
  · refine .inr ⟨run, hmem, hfirst, hlast, ?_⟩
    rw [heq, CaseRun.image] at h
    omega

/-- A property of the code points that a table maps to `m`, decided run by run. -/
theorem of_mapByRuns {runs : List CaseRun} {m : Nat} {P : Nat → Prop} (hm : m ≠ 0) (hself : P m)
    (hruns : ∀ run ∈ runs, (run.first : Int) ≤ m - run.shift → (m : Int) - run.shift ≤ run.last →
      P ((m : Int) - run.shift).toNat) {n : Nat} (h : mapByRuns runs n = m) : P n := by
  obtain rfl | ⟨run, hmem, hfirst, hlast, heq⟩ := mapByRuns_cases hm h
  · exact hself
  · have hn : n = ((m : Int) - run.shift).toNat := by omega
    rw [hn]
    exact hruns run hmem (by omega) (by omega)

/-! ## Blanks -/

def blankCodes : List Nat :=
  [9, 10, 11, 12, 13, 28, 29, 30, 31, 32, 133, 160, 5760, 8192, 8193, 8194, 8195, 8196, 8197, 8198, 8199,
   8200, 8201, 8202, 8232, 8233, 8239, 8287, 12288]

theorem isBlank_iff (c : Char) : isBlank c = true ↔ c.toNat ∈ blankCodes := by
  simp only [isBlank, blankCodes, Bool.or_eq_true, Bool.and_eq_true, decide_eq_true_eq, beq_iff_eq,
    List.mem_cons, List.not_mem_nil, or_false]
  omega

theorem isWord_of_isBlank {c : Char} (h : isBlank c = true) : isWord c = false := by
  have hcodes : ∀ n ∈ blankCodes, isWord (Char.ofNat n) = false := by decide +kernel
  rw [char_eq_ofNat c]
  exact hcodes _ ((isBlank_iff c).mp h)

/-! ## Matching letters -/

/-- The letters that match a cased letter of a pattern are told by their lower case. -/
theorem sameLetter_iff {p : Char} (hp : isCased p = true) (c : Char) :
    sameLetter p c = true ↔ (simpleLower c).toNat ∈ foldClass (simpleLower p) := by
  unfold sameLetter
  rw [hp, Bool.true_and, Bool.or_eq_true, beq_iff_eq, List.contains_iff_mem]
  constructor
  · rintro (rfl | h)
    · exact List.mem_cons_self
    · exact h
  · exact .inr

/-- Only a character itself matches a character without case. -/
theorem sameLetter_iff_eq {p : Char} (hp : isCased p = false) (c : Char) :
    sameLetter p c = true ↔ p = c := by
  unfold sameLetter
  rw [hp, Bool.false_and, Bool.or_false, beq_iff_eq]

/-- The lower case letters that ASCII letters match. -/
def asciiClasses : List Nat := 305 :: 383 :: (List.range 26).map (· + 97)

theorem isWord_of_le {c : Char} (hc : ¬ c.toNat < 128) (h : inRanges wordRanges c.toNat = true) :
    isWord c = true := by
  unfold isWord
  rw [if_neg hc]
  exact h

theorem isWord_of_lower_mem {c : Char} (h : (simpleLower c).toNat ∈ asciiClasses) : isWord c = true := by
  by_cases hc : c.toNat < 128
  · have hascii : ∀ n < 128, (simpleLower (Char.ofNat n)).toNat ∈ asciiClasses →
        isWord (Char.ofNat n) = true := by decide
    exact @of_lt_128 (fun c => (simpleLower c).toNat ∈ asciiClasses → isWord c = true) hascii c hc h
  · have hself : ∀ m ∈ asciiClasses, m ≠ 0 ∧ (m < 128 ∨ inRanges wordRanges m = true) := by decide
    have hruns : ∀ m ∈ asciiClasses, ∀ run ∈ lowerRuns, (run.first : Int) ≤ m - run.shift →
        (m : Int) - run.shift ≤ run.last → ((m : Int) - run.shift).toNat < 128 ∨
          inRanges wordRanges ((m : Int) - run.shift).toNat = true := by decide +kernel
    unfold simpleLower at h
    rw [if_neg hc] at h
    obtain ⟨hm, hword⟩ := hself _ h
    have hmap := toNat_ofNat_eq hm rfl
    have hcode := of_mapByRuns (P := fun n => n < 128 ∨ inRanges wordRanges n = true) hm hword (hruns _ h) hmap
    exact isWord_of_le hc (hcode.resolve_left hc)

theorem lt_128_of_isAlpha {c : Char} (h : c.isAlpha = true) : c.toNat < 128 := by
  obtain h | h := Bool.or_eq_true_iff.mp h
  · have hle : c.val ≤ 90 := (of_decide_eq_true h).2
    exact Nat.lt_of_le_of_lt hle (by decide)
  · have hle : c.val ≤ 122 := of_decide_eq_true (Bool.and_eq_true_iff.mp h).2
    exact Nat.lt_of_le_of_lt hle (by decide)

theorem lower_mem_of_sameLetter {p c : Char} (hp : p.isAlpha = true) (h : sameLetter p c = true) :
    (simpleLower c).toNat ∈ asciiClasses := by
  have hclasses : ∀ n < 128, (Char.ofNat n).isAlpha = true → isCased (Char.ofNat n) = true ∧
      ∀ m ∈ foldClass (simpleLower (Char.ofNat n)), m ∈ asciiClasses := by decide
  obtain ⟨hcased, hmem⟩ := @of_lt_128 (fun c => c.isAlpha = true → isCased c = true ∧
    ∀ m ∈ foldClass (simpleLower c), m ∈ asciiClasses) hclasses p (lt_128_of_isAlpha hp) hp
  exact hmem _ ((sameLetter_iff hcased c).mp h)

theorem isWord_of_sameLetter {p c : Char} (hp : p.isAlpha = true) (h : sameLetter p c = true) :
    isWord c = true :=
  isWord_of_lower_mem (lower_mem_of_sameLetter hp h)

theorem lt_128_of_isDigit {c : Char} (h : c.isDigit = true) : c.toNat < 128 := by
  have hle : c.val ≤ 57 := of_decide_eq_true (Bool.and_eq_true_iff.mp h).2
  exact Nat.lt_of_le_of_lt hle (by decide)

theorem isWord_of_isDigit {c : Char} (h : c.isDigit = true) : isWord c = true := by
  have hascii : ∀ n < 128, (Char.ofNat n).isDigit = true → isWord (Char.ofNat n) = true := by decide
  exact @of_lt_128 (fun c => c.isDigit = true → isWord c = true) hascii c (lt_128_of_isDigit h) h

theorem sameLetter_of_isDigit {p c : Char} (hp : p.isAlpha = true) (h : c.isDigit = true) :
    sameLetter p c = false := by
  have hascii : ∀ n < 128, (Char.ofNat n).isDigit = true →
      (simpleLower (Char.ofNat n)).toNat ∉ asciiClasses := by decide
  rw [← Bool.not_eq_true]
  intro hsame
  exact @of_lt_128 (fun c => c.isDigit = true → (simpleLower c).toNat ∉ asciiClasses) hascii c
    (lt_128_of_isDigit h) h (lower_mem_of_sameLetter hp hsame)

theorem sameLetter_inter {p q c : Char} (hp : isCased p = true) (hq : isCased q = true)
    (h : sameLetter p c = true) (h' : sameLetter q c = true) :
    ((foldClass (simpleLower p)).any fun n => (foldClass (simpleLower q)).contains n) = true := by
  rw [List.any_eq_true]
  refine ⟨_, (sameLetter_iff hp c).mp h, ?_⟩
  rw [List.contains_iff_mem]
  exact (sameLetter_iff hq c).mp h'

/-! ## Upper case -/

/-- The code points that a statement's chaining is judged by. -/
def edgeCodes : List Nat := 59 :: blankCodes

theorem upperChar_of_lt {c : Char} (hc : c.toNat < 128) : upperChar c = [c.toUpper] := by
  unfold upperChar
  rw [if_pos hc]

theorem upperChar_of_edge {c : Char} (h : c.toNat ∈ edgeCodes) : upperChar c = [c] := by
  have hcodes : ∀ n ∈ edgeCodes, upperChar (Char.ofNat n) = [Char.ofNat n] := by decide
  rw [char_eq_ofNat c]
  exact hcodes _ h

theorem mem_of_lookup {entries : List (Nat × List Nat)} {n : Nat} {codes : List Nat}
    (h : entries.lookup n = some codes) : (n, codes) ∈ entries := by
  obtain ⟨before, after, rfl, -⟩ := List.lookup_eq_some_iff.mp h
  exact List.mem_append_right _ List.mem_cons_self

theorem upperChar_ne_nil (c : Char) : upperChar c ≠ [] := by
  have htable : ∀ entry ∈ upperExpansions, entry.2 ≠ [] := by decide
  unfold upperChar
  split
  · exact List.cons_ne_nil _ _
  · split
    · rename_i codes hcodes
      intro hnil
      exact htable _ (mem_of_lookup hcodes) (List.map_eq_nil_iff.mp hnil)
    · exact List.cons_ne_nil _ _

/-- Upper case makes no blank and no semicolon out of another character. -/
theorem eq_of_mem_upperChar {c d : Char} (hd : d ∈ upperChar c) (h : d.toNat ∈ edgeCodes) : c = d := by
  have hnonzero : ∀ n ∈ edgeCodes, n ≠ 0 := by decide
  by_cases hc : c.toNat < 128
  · have hascii : ∀ n < 128, (Char.ofNat n).toUpper.toNat ∈ edgeCodes →
        (Char.ofNat n).toUpper = Char.ofNat n := by decide
    rw [upperChar_of_lt hc, List.mem_singleton] at hd
    subst hd
    exact (@of_lt_128 (fun c => c.toUpper.toNat ∈ edgeCodes → c.toUpper = c) hascii c hc h).symm
  · have htable : ∀ entry ∈ upperExpansions, ∀ code ∈ entry.2, code ∉ edgeCodes := by decide
    have hruns : ∀ m ∈ edgeCodes, ∀ run ∈ upperRuns, (run.first : Int) ≤ m - run.shift →
        (m : Int) - run.shift ≤ run.last → ((m : Int) - run.shift).toNat = m := by decide +kernel
    unfold upperChar at hd
    rw [if_neg hc] at hd
    split at hd
    · rename_i codes hcodes
      obtain ⟨code, hcode, rfl⟩ := List.mem_map.mp hd
      have heq := toNat_ofNat_eq (hnonzero _ h) rfl
      rw [← heq] at h
      exact absurd h (htable _ (mem_of_lookup hcodes) code hcode)
    · rw [List.mem_singleton] at hd
      subst hd
      have hmap := toNat_ofNat_eq (hnonzero _ h) rfl
      have hcode := of_mapByRuns (P := fun n => n = _) (hnonzero _ h) rfl (hruns _ h) hmap
      exact (char_eq_ofNat c).trans (congrArg Char.ofNat (hcode.trans hmap.symm))

end TenderQuery.Text
