import TenderQuery.Proofs.Text.Searching

/-!
# Single spaces

A text is evenly spaced if its blanks are single spaces. Collapsing makes every text so and trims it
(`isEvenlySpaced_collapse`, `isUnpadded_collapse`), and it changes no text that is so already (`collapse_eq_self`).
Of a text that begins evenly it changes only what follows (`collapse_append`, `collapse_append_gap`). It comes to
writing one space for each run of blanks and trimming (`collapse_eq_trim_squeeze`).
-/
set_option autoImplicit false
namespace TenderQuery.Text

/-- Every blank of the text is a space, and no two spaces stand together. -/
structure IsEvenlySpaced (s : List Char) : Prop where
  spaces : ∀ c ∈ s, isBlank c = true → c = ' '
  single : ¬ [' ', ' '] <:+: s

instance (s : List Char) : Decidable (IsEvenlySpaced s) :=
  decidable_of_iff ((∀ c ∈ s, isBlank c = true → c = ' ') ∧ ¬ contains [' ', ' '] s = true) <| by
    rw [contains_iff_isInfix]
    exact ⟨fun ⟨h₁, h₂⟩ => ⟨h₁, h₂⟩, fun ⟨h₁, h₂⟩ => ⟨h₁, h₂⟩⟩

theorem IsEvenlySpaced.of_infix {part s : List Char} (h : IsEvenlySpaced s) (hpart : part <:+: s) :
    IsEvenlySpaced part :=
  ⟨fun c hc => h.spaces c (hpart.subset hc), fun hdouble => h.single (hdouble.trans hpart)⟩

/-! ## Writing one space for each gap -/

theorem spaced_blank {c : Char} (hc : isBlank c = true) (gap : Bool) (s : List Char) :
    spaced gap (c :: s) = spaced true s := by
  simp [spaced, hc]

theorem spaced_letter {c : Char} (hc : isBlank c = false) (s : List Char) :
    spaced false (c :: s) = c :: spaced false s := by
  simp [spaced, hc]

theorem spaced_gap_letter {c : Char} (hc : isBlank c = false) (s : List Char) :
    spaced true (c :: s) = ' ' :: spaced false (c :: s) := by
  simp [spaced, hc]

theorem spaced_append_blanks {back : List Char} (h : IsBlanks back) (gap : Bool) (s : List Char) :
    spaced gap (s ++ back) = spaced gap s := by
  induction s generalizing gap with
  | nil =>
    induction back generalizing gap with
    | nil => rfl
    | cons c back ih =>
      rw [List.nil_append, spaced_blank (h c List.mem_cons_self)]
      exact ih (fun d hd => h d (List.mem_cons_of_mem _ hd)) true
  | cons c s ih =>
    simp only [List.cons_append, spaced, ih]

theorem collapse_append_front {front : List Char} (h : IsBlanks front) (s : List Char) :
    collapse (front ++ s) = collapse s := by
  unfold collapse
  rw [trimStart_append_blanks h]

theorem collapse_append_back {back : List Char} (h : IsBlanks back) (s : List Char) :
    collapse (s ++ back) = collapse s := by
  unfold collapse
  by_cases hs : trimStart s = []
  · have hall : IsBlanks (s ++ back) := by
      intro c hc
      obtain hc | hc := List.mem_append.mp hc
      · exact (trimStart_eq_nil_iff s).mp hs c hc
      · exact h c hc
    rw [(trimStart_eq_nil_iff _).mpr hall, hs]
  · rw [trimStart_append hs, spaced_append_blanks h]

/-- Behind a gap a space is written, unless only blanks follow. -/
theorem spaced_gap {s : List Char} (h : trimStart s ≠ []) : spaced true s = ' ' :: collapse s := by
  induction s with
  | nil => exact absurd rfl h
  | cons c s ih =>
    by_cases hc : isBlank c = true
    · have hfront : trimStart (c :: s) = trimStart s := @trimStart_append_blanks [c] (by simpa [IsBlanks]) s
      rw [hfront] at h
      unfold collapse at ih ⊢
      rw [spaced_blank hc, ih h, hfront]
    · rw [Bool.not_eq_true] at hc
      unfold collapse
      rw [spaced_gap_letter hc, trimStart_cons_of_not_isBlank hc]

theorem spaced_append {a : List Char} (ha : IsEvenlySpaced a) (hback : ∀ c ∈ a.getLast?, isBlank c = false)
    (s : List Char) : spaced false (a ++ s) = a ++ spaced false s := by
  induction a with
  | nil => rfl
  | cons c a ih =>
    have htail : IsEvenlySpaced a := ha.of_infix (List.suffix_cons c a).isInfix
    by_cases hc : isBlank c = true
    · obtain rfl := ha.spaces c List.mem_cons_self hc
      cases a with
      | nil => exact absurd hc (by simp [hback ' ' rfl])
      | cons d a =>
        -- A single space is followed by a character that is no blank.
        have hd : isBlank d = false := by
          rw [← Bool.not_eq_true]
          intro hd
          obtain rfl := ha.spaces d (by simp) hd
          exact ha.single ⟨[], a, rfl⟩
        have hrest := ih htail (by simpa using hback)
        rw [List.cons_append] at hrest ⊢
        rw [spaced_blank hc, List.cons_append, spaced_gap_letter hd, hrest]
        rfl
    · rw [Bool.not_eq_true] at hc
      rw [List.cons_append, spaced_letter hc, List.cons_append]
      congr 1
      apply ih htail
      intro d hd
      apply hback
      cases a with
      | nil => simp at hd
      | cons e a => simpa using hd

/-! ## What collapsing gives -/

theorem mem_spaced {c : Char} {gap : Bool} {s : List Char} (h : c ∈ spaced gap s) : c ∈ s ∨ c = ' ' := by
  induction s generalizing gap with
  | nil => simp [spaced] at h
  | cons d s ih =>
    rw [spaced] at h
    split at h
    · exact (ih h).imp_left (List.mem_cons_of_mem d)
    · split at h
      · simp only [List.mem_cons] at h ⊢
        obtain h | h | h := h
        · exact .inr h
        · exact .inl (.inl h)
        · exact (ih h).imp_left .inr
      · simp only [List.mem_cons] at h ⊢
        obtain h | h := h
        · exact .inl (.inl h)
        · exact (ih h).imp_left .inr

theorem mem_collapse {c : Char} {s : List Char} (h : c ∈ collapse s) : c ∈ s ∨ c = ' ' :=
  (mem_spaced h).imp_left ((List.dropWhile_suffix isBlank).subset ·)

theorem isEvenlySpaced_letter {c : Char} (hc : isBlank c = false) {s : List Char} (h : IsEvenlySpaced s) :
    IsEvenlySpaced (c :: s) := by
  constructor
  · intro d hd hblank
    obtain rfl | hd := List.mem_cons.mp hd
    · simp [hc] at hblank
    · exact h.spaces d hd hblank
  · intro hdouble
    obtain hdouble | hdouble := List.infix_cons_iff.mp hdouble
    · rw [List.cons_prefix_cons] at hdouble
      obtain ⟨rfl, -⟩ := hdouble
      exact absurd hc (by decide)
    · exact h.single hdouble

theorem isEvenlySpaced_spaced (gap : Bool) (s : List Char) : IsEvenlySpaced (spaced gap s) := by
  induction s generalizing gap with
  | nil => exact ⟨by simp [spaced], by simp [spaced]⟩
  | cons c s ih =>
    by_cases hc : isBlank c = true
    · rw [spaced_blank hc]
      exact ih true
    · rw [Bool.not_eq_true] at hc
      have hletter : IsEvenlySpaced (c :: spaced false s) := isEvenlySpaced_letter hc (ih false)
      cases gap with
      | false =>
        rw [spaced_letter hc]
        exact hletter
      | true =>
        rw [spaced_gap_letter hc, spaced_letter hc]
        constructor
        · intro d hd hblank
          obtain rfl | hd := List.mem_cons.mp hd
          · rfl
          · exact hletter.spaces d hd hblank
        · intro hdouble
          obtain hdouble | hdouble := List.infix_cons_iff.mp hdouble
          · simp only [List.cons_prefix_cons] at hdouble
            obtain ⟨-, rfl, -⟩ := hdouble
            exact absurd hc (by decide)
          · exact hletter.single hdouble

theorem isEvenlySpaced_collapse (s : List Char) : IsEvenlySpaced (collapse s) := isEvenlySpaced_spaced _ _

theorem not_isBlank_of_getLast?_spaced {gap : Bool} {s : List Char} :
    ∀ c ∈ (spaced gap s).getLast?, isBlank c = false := by
  induction s generalizing gap with
  | nil => simp [spaced]
  | cons d s ih =>
    by_cases hd : isBlank d = true
    · rw [spaced_blank hd]
      exact ih
    · rw [Bool.not_eq_true] at hd
      have hletter : ∀ c ∈ (d :: spaced false s).getLast?, isBlank c = false := by
        intro c hc
        cases hrest : spaced false s with
        | nil =>
          rw [hrest] at hc
          simp only [List.getLast?_singleton, Option.mem_some_iff] at hc
          exact hc ▸ hd
        | cons e r =>
          rw [hrest, List.getLast?_cons_cons, ← hrest] at hc
          exact ih c hc
      cases gap with
      | false =>
        rw [spaced_letter hd]
        exact hletter
      | true =>
        rw [spaced_gap_letter hd, spaced_letter hd]
        rw [List.getLast?_cons_cons]
        exact hletter

theorem isUnpadded_collapse (s : List Char) : IsUnpadded (collapse s) := by
  constructor
  · unfold collapse
    cases hs : trimStart s with
    | nil => simp [spaced]
    | cons c r =>
      have hc := not_isBlank_of_trimStart hs
      rw [spaced_letter hc]
      simpa using hc
  · exact not_isBlank_of_getLast?_spaced

/-! ## Texts that are evenly spaced in front -/

theorem trimStart_append_of_isUnpadded {a : List Char} (hends : IsUnpadded a) (hne : a ≠ []) (s : List Char) :
    trimStart (a ++ s) = a ++ s := by
  obtain ⟨c, r, rfl⟩ := List.exists_cons_of_ne_nil hne
  exact trimStart_cons_of_not_isBlank (hends.front c rfl) (r ++ s)

section Front
variable {a : List Char} (ha : IsEvenlySpaced a) (hends : IsUnpadded a)
include ha hends

theorem collapse_append (hne : a ≠ []) (s : List Char) : collapse (a ++ s) = a ++ spaced false s := by
  unfold collapse
  rw [trimStart_append_of_isUnpadded hends hne, spaced_append ha hends.back]

theorem collapse_append_gap (hne : a ≠ []) {gap : List Char} (hgap : IsBlanks gap) (hgapne : gap ≠ [])
    {s : List Char} (hs : trimStart s ≠ []) :
    collapse (a ++ (gap ++ s)) = a ++ ' ' :: collapse s := by
  obtain ⟨c, gap, rfl⟩ := List.exists_cons_of_ne_nil hgapne
  have hrest : IsBlanks gap := fun d hd => hgap d (List.mem_cons_of_mem c hd)
  have htrim : trimStart (gap ++ s) = trimStart s := trimStart_append_blanks hrest s
  rw [collapse_append ha hends hne, List.cons_append, spaced_blank (hgap c List.mem_cons_self),
    spaced_gap (by rwa [htrim]), collapse_append_front hrest]

theorem collapse_eq_self : collapse a = a := by
  by_cases hne : a = []
  · subst hne
    rfl
  · have happend := collapse_append ha hends hne []
    rw [List.append_nil] at happend
    rw [happend]
    simp [spaced]

end Front

/-! ## Squeezing without trimming -/

/-- Every run of blanks becomes one space: its last blank is written as a space, and the others go. -/
def squeeze : List Char → List Char
  | [] => []
  | c :: r =>
    if isBlank c = true then if r.head?.any isBlank = true then squeeze r else ' ' :: squeeze r
    else c :: squeeze r

theorem squeeze_letter {c : Char} (hc : isBlank c = false) (s : List Char) : squeeze (c :: s) = c :: squeeze s := by
  rw [squeeze, if_neg (Bool.eq_false_iff.mp hc)]

theorem squeeze_blank {c : Char} (hc : isBlank c = true) (s : List Char) :
    squeeze (c :: s) = squeeze s ∨ squeeze (c :: s) = ' ' :: squeeze s := by
  rw [squeeze, if_pos hc]
  split
  · exact .inl rfl
  · exact .inr rfl

theorem length_squeeze_le (s : List Char) : (squeeze s).length ≤ s.length := by
  induction s with
  | nil => exact Nat.le_refl _
  | cons c s ih =>
    by_cases hc : isBlank c = true
    · obtain h | h := squeeze_blank hc s
      · rw [h, List.length_cons]
        exact Nat.le_succ_of_le ih
      · rw [h, List.length_cons, List.length_cons]
        exact Nat.succ_le_succ ih
    · rw [squeeze_letter (Bool.eq_false_iff.mpr hc), List.length_cons, List.length_cons]
      exact Nat.succ_le_succ ih

theorem trimStart_squeeze (s : List Char) : trimStart (squeeze s) = squeeze (trimStart s) := by
  induction s with
  | nil => rfl
  | cons c s ih =>
    by_cases hc : isBlank c = true
    · have hfront : trimStart (c :: s) = trimStart s := List.dropWhile_cons_of_pos hc
      rw [hfront, ← ih]
      obtain h | h := squeeze_blank hc s
      · rw [h]
      · rw [h]
        exact List.dropWhile_cons_of_pos (by decide)
    · rw [Bool.not_eq_true] at hc
      rw [squeeze_letter hc, trimStart_cons_of_not_isBlank hc, trimStart_cons_of_not_isBlank hc, squeeze_letter hc]

theorem trimEnd_cons {c : Char} {s : List Char} (h : isBlank c = false ∨ trimEnd s ≠ []) :
    trimEnd (c :: s) = c :: trimEnd s := by
  unfold trimEnd at h ⊢
  rw [List.reverse_cons, List.dropWhile_append]
  split
  next hempty =>
    rw [List.isEmpty_iff] at hempty
    obtain hc | hne := h
    · rw [hempty, List.dropWhile_cons_of_neg (Bool.eq_false_iff.mp hc)]
      rfl
    · exact absurd (congrArg List.reverse hempty) hne
  next => rw [List.reverse_append, List.reverse_singleton, List.singleton_append]

theorem trimEnd_squeeze (s : List Char) : trimEnd (squeeze s) = spaced false s := by
  induction s with
  | nil => rfl
  | cons c s ih =>
    by_cases hc : isBlank c = true
    · rw [squeeze, if_pos hc, spaced_blank hc]
      cases s with
      | nil => rfl
      | cons d s =>
        by_cases hd : isBlank d = true
        · rw [List.head?_cons, Option.any_some, if_pos hd, ih, spaced_blank hd, spaced_blank hd]
        · rw [Bool.not_eq_true] at hd
          have hne : trimEnd (squeeze (d :: s)) ≠ [] := by
            rw [ih, spaced_letter hd]
            exact List.cons_ne_nil _ _
          rw [List.head?_cons, Option.any_some, if_neg (Bool.eq_false_iff.mp hd), trimEnd_cons (.inr hne), ih,
            spaced_gap_letter hd]
    · rw [Bool.not_eq_true] at hc
      rw [squeeze_letter hc, trimEnd_cons (.inl hc), ih, spaced_letter hc]

/-- To collapse is to squeeze and to trim. -/
theorem collapse_eq_trim_squeeze (s : List Char) : collapse s = trim (squeeze s) := by
  unfold collapse trim
  rw [trimStart_squeeze, trimEnd_squeeze]

end TenderQuery.Text
