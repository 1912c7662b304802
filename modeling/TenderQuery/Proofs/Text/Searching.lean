import TenderQuery.Proofs.Text.Trimming

/-!
# What a search finds

- `scan_isSome_iff` and `scan_eq_some` say which places a scan looks at and what stands there.
- `contains_iff_isInfix` says that a text contains its substrings.
- `Fits` says that a piece of text is a spelling of a pattern; `dropFold` removes such a piece.
- `occurs_word_iff` reduces the search for a keyword to the words of the text.
-/
set_option autoImplicit false
namespace TenderQuery.Text

/-! ## Scanning -/

section Scanning
variable {σ α : Type} {step : σ → Char → σ} {p : σ → List Char → Option α}

theorem scan_isSome_iff {state : σ} {s : List Char} :
    (scan step p state s).isSome = true ↔ ∃ a b, s = a ++ b ∧ (p (a.foldl step state) b).isSome = true := by
  induction s generalizing state with
  | nil =>
    rw [scan, Option.isSome_map]
    constructor
    · intro h
      exact ⟨[], [], rfl, h⟩
    · rintro ⟨a, b, heq, h⟩
      obtain ⟨rfl, rfl⟩ := List.nil_eq_append_iff.mp heq
      exact h
  | cons c r ih =>
    rw [scan]
    cases hp : p state (c :: r) with
    | some x => exact ⟨fun _ => ⟨[], c :: r, rfl, by simp [hp]⟩, fun _ => rfl⟩
    | none =>
      simp only [Option.isSome_map]
      rw [ih]
      constructor
      · rintro ⟨a, b, rfl, h⟩
        exact ⟨c :: a, b, rfl, h⟩
      · rintro ⟨a, b, heq, h⟩
        cases a with
        | nil =>
          rw [List.nil_append] at heq
          subst heq
          rw [List.foldl_nil, hp] at h
          cases h
        | cons d t =>
          rw [List.cons_append, List.cons.injEq] at heq
          obtain ⟨rfl, rfl⟩ := heq
          exact ⟨t, b, rfl, h⟩

theorem scan_eq_some {state : σ} {s before : List Char} {x : α}
    (h : scan step p state s = some (before, x)) :
    ∃ after, s = before ++ after ∧ p (before.foldl step state) after = some x := by
  induction s generalizing state before with
  | nil =>
    rw [scan, Option.map_eq_some_iff] at h
    obtain ⟨y, hy, heq⟩ := h
    cases heq
    exact ⟨[], rfl, hy⟩
  | cons c r ih =>
    rw [scan] at h
    cases hp : p state (c :: r) with
    | some y =>
      rw [hp] at h
      cases h
      exact ⟨c :: r, rfl, hp⟩
    | none =>
      simp only [hp, Option.map_eq_some_iff] at h
      obtain ⟨⟨earlier, y⟩, hscan, heq⟩ := h
      cases heq
      obtain ⟨after, rfl, hafter⟩ := ih hscan
      exact ⟨after, rfl, hafter⟩

/-- A scan stops at the first place where the matcher applies. -/
theorem length_le_of_scan_eq_some {state : σ} {s before : List Char} {x : α}
    (h : scan step p state s = some (before, x)) {a b : List Char} (hs : s = a ++ b)
    (hb : (p (a.foldl step state) b).isSome = true) : before.length ≤ a.length := by
  induction a generalizing state s before with
  | nil =>
    rw [List.nil_append] at hs
    subst hs
    obtain ⟨y, hy⟩ := Option.isSome_iff_exists.mp hb
    rw [List.foldl_nil] at hy
    cases s with
    | nil =>
      rw [scan, hy] at h
      cases h
      exact Nat.le_refl _
    | cons c r =>
      rw [scan, hy] at h
      cases h
      exact Nat.le_refl _
  | cons c a ih =>
    subst hs
    rw [List.cons_append, scan] at h
    split at h
    · cases h
      exact Nat.zero_le _
    · obtain ⟨⟨earlier, y⟩, hscan, heq⟩ := Option.map_eq_some_iff.mp h
      cases heq
      exact Nat.succ_le_succ (ih hscan rfl hb)

end Scanning

/-! ## Substrings -/

theorem contains_iff_isInfix (part s : List Char) : contains part s = true ↔ part <:+: s := by
  induction s with
  | nil => rw [contains, List.isEmpty_iff, List.infix_nil]
  | cons c r ih => rw [contains, Bool.or_eq_true, List.isPrefixOf_iff_prefix, ih, List.infix_cons_iff]

/-! ## Searching between words -/

theorem foldl_isWord (s : List Char) : s.foldl (fun _ c => isWord c) false = endsWord s := by
  obtain rfl | ⟨r, c, rfl⟩ := List.eq_nil_or_concat s
  · rfl
  · rw [List.concat_eq_append, List.foldl_append, endsWord_concat]
    rfl

theorem foldl_position (s : List Char) : (s.foldl Position.next ⟨false, 0⟩).afterWord = endsWord s := by
  obtain rfl | ⟨r, c, rfl⟩ := List.eq_nil_or_concat s
  · rfl
  · rw [List.concat_eq_append, List.foldl_append, endsWord_concat]
    rfl

section Search
variable {α : Type} {p : List Char → Option α} {s before : List Char} {x : α}

theorem occurs_iff :
    occurs p s = true ↔ ∃ a b, s = a ++ b ∧ endsWord a = false ∧ (p b).isSome = true := by
  unfold occurs search
  rw [scan_isSome_iff]
  simp only [foldl_isWord]
  refine exists_congr fun a => exists_congr fun b => and_congr_right fun _ => ?_
  cases endsWord a with
  | true => simp
  | false => simp

theorem search_eq_some (h : search p s = some (before, x)) :
    ∃ after, s = before ++ after ∧ endsWord before = false ∧ p after = some x := by
  obtain ⟨after, heq, hafter⟩ := scan_eq_some h
  rw [foldl_isWord] at hafter
  cases hend : endsWord before with
  | true =>
    rw [hend] at hafter
    cases hafter
  | false =>
    rw [hend] at hafter
    exact ⟨after, heq, rfl, hafter⟩

theorem searchTopLevel_eq_some (h : searchTopLevel p s = some (before, x)) :
    ∃ after, s = before ++ after ∧ endsWord before = false ∧ p after = some x := by
  obtain ⟨after, heq, hafter⟩ := scan_eq_some h
  rw [foldl_position] at hafter
  cases hend : endsWord before with
  | true =>
    rw [hend] at hafter
    cases hafter
  | false =>
    rw [hend] at hafter
    split at hafter
    · cases hafter
    · exact ⟨after, heq, rfl, hafter⟩

end Search

/-! ## Spellings of a pattern -/

/-- The piece of text is a spelling of the pattern. -/
def Fits (pattern piece : List Char) : Prop := dropFold pattern piece = some []

instance (pattern piece : List Char) : Decidable (Fits pattern piece) :=
  inferInstanceAs (Decidable (dropFold pattern piece = some []))

theorem fits_nil_iff (piece : List Char) : Fits [] piece ↔ piece = [] := by
  unfold Fits
  rw [dropFold, Option.some.injEq]

theorem fits_cons_iff (p : Char) (pattern piece : List Char) :
    Fits (p :: pattern) piece ↔ ∃ c r, piece = c :: r ∧ sameLetter p c = true ∧ Fits pattern r := by
  unfold Fits
  cases piece with
  | nil =>
    constructor
    · intro h
      cases h
    · rintro ⟨c, r, h, -⟩
      cases h
  | cons c r =>
    rw [dropFold]
    constructor
    · intro h
      split at h
      · rename_i hc
        exact ⟨c, r, rfl, hc, h⟩
      · cases h
    · rintro ⟨d, t, heq, hd, ht⟩
      cases heq
      rw [if_pos hd]
      exact ht

theorem sameLetter_self (c : Char) : sameLetter c c = true := by
  unfold sameLetter
  rw [beq_self_eq_true, Bool.true_or]

theorem fits_self (pattern : List Char) : Fits pattern pattern := by
  induction pattern with
  | nil => exact (fits_nil_iff []).mpr rfl
  | cons p pattern ih => exact (fits_cons_iff p pattern _).mpr ⟨p, pattern, rfl, sameLetter_self p, ih⟩

theorem length_of_fits {pattern piece : List Char} (h : Fits pattern piece) : piece.length = pattern.length := by
  induction pattern generalizing piece with
  | nil => rw [(fits_nil_iff piece).mp h]
  | cons p pattern ih =>
    obtain ⟨c, r, rfl, -, hr⟩ := (fits_cons_iff p pattern piece).mp h
    rw [List.length_cons, List.length_cons, ih hr]

theorem fits_append_iff (pattern more piece : List Char) :
    Fits (pattern ++ more) piece ↔ ∃ x y, piece = x ++ y ∧ Fits pattern x ∧ Fits more y := by
  induction pattern generalizing piece with
  | nil =>
    constructor
    · intro h
      exact ⟨[], piece, rfl, (fits_nil_iff []).mpr rfl, h⟩
    · rintro ⟨x, y, rfl, hx, hy⟩
      rw [(fits_nil_iff x).mp hx]
      exact hy
  | cons p pattern ih =>
    rw [List.cons_append, fits_cons_iff]
    constructor
    · rintro ⟨c, r, rfl, hc, hr⟩
      obtain ⟨x, y, rfl, hx, hy⟩ := (ih r).mp hr
      exact ⟨c :: x, y, rfl, (fits_cons_iff p pattern _).mpr ⟨c, x, rfl, hc, hx⟩, hy⟩
    · rintro ⟨x, y, rfl, hx, hy⟩
      obtain ⟨c, r, rfl, hc, hr⟩ := (fits_cons_iff p pattern x).mp hx
      exact ⟨c, r ++ y, rfl, hc, (ih (r ++ y)).mpr ⟨r, y, rfl, hr, hy⟩⟩

theorem dropFold_eq_some_iff {pattern s rest : List Char} :
    dropFold pattern s = some rest ↔ ∃ piece, s = piece ++ rest ∧ Fits pattern piece := by
  induction pattern generalizing s with
  | nil =>
    rw [dropFold, Option.some.injEq]
    constructor
    · rintro rfl
      exact ⟨[], rfl, (fits_nil_iff []).mpr rfl⟩
    · rintro ⟨piece, rfl, h⟩
      rw [(fits_nil_iff piece).mp h]
      rfl
  | cons p pattern ih =>
    constructor
    · intro h
      cases s with
      | nil => cases h
      | cons c r =>
        rw [dropFold] at h
        split at h
        · rename_i hc
          obtain ⟨piece, rfl, hpiece⟩ := ih.mp h
          exact ⟨c :: piece, rfl, (fits_cons_iff p pattern _).mpr ⟨c, piece, rfl, hc, hpiece⟩⟩
        · cases h
    · rintro ⟨piece, rfl, h⟩
      obtain ⟨c, r, rfl, hc, hr⟩ := (fits_cons_iff p pattern piece).mp h
      rw [List.cons_append, dropFold, if_pos hc]
      exact ih.mpr ⟨r, rfl, hr⟩

/-- The pattern is a word of ASCII letters. -/
def IsKeyword (pattern : List Char) : Prop := pattern ≠ [] ∧ ∀ p ∈ pattern, p.isAlpha = true

instance (pattern : List Char) : Decidable (IsKeyword pattern) := inferInstanceAs (Decidable (_ ∧ _))

theorem Fits.isWord {pattern piece : List Char} (h : Fits pattern piece)
    (hp : ∀ p ∈ pattern, p.isAlpha = true) : ∀ c ∈ piece, isWord c = true := by
  induction pattern generalizing piece with
  | nil =>
    rw [(fits_nil_iff piece).mp h]
    intro c hc
    cases hc
  | cons p pattern ih =>
    obtain ⟨c, r, rfl, hc, hr⟩ := (fits_cons_iff p pattern piece).mp h
    intro d hd
    obtain rfl | hd := List.mem_cons.mp hd
    · exact isWord_of_sameLetter (hp p List.mem_cons_self) hc
    · exact ih hr (fun q hq => hp q (List.mem_cons_of_mem _ hq)) d hd

theorem Fits.ne_nil {pattern piece : List Char} (h : Fits pattern piece) (hp : pattern ≠ []) :
    piece ≠ [] := by
  cases pattern with
  | nil => exact absurd rfl hp
  | cons p pattern =>
    obtain ⟨c, r, rfl, -⟩ := (fits_cons_iff p pattern piece).mp h
    exact List.cons_ne_nil c r

/-- Some letter matches the first letters of both patterns. -/
def firstLettersMeet : List Char → List Char → Bool
  | p :: _, q :: _ =>
    !(isCased p && isCased q) ||
      (foldClass (simpleLower p)).any fun n => (foldClass (simpleLower q)).contains n
  | _, _ => true

theorem Fits.firstLettersMeet {pattern other piece : List Char} (h : Fits pattern piece)
    (h' : Fits other piece) :
    firstLettersMeet pattern other = true := by
  cases pattern with
  | nil => rfl
  | cons p pattern =>
    cases other with
    | nil => rfl
    | cons q other =>
      obtain ⟨c, r, rfl, hc, -⟩ := (fits_cons_iff p pattern piece).mp h
      obtain ⟨d, t, heq, hd, -⟩ := (fits_cons_iff q other _).mp h'
      cases heq
      simp only [Text.firstLettersMeet]
      by_cases hp : isCased p = true
      · by_cases hq : isCased q = true
        · rw [sameLetter_inter hp hq hc hd, Bool.or_true]
        · simp [hq]
      · simp [hp]

/-! ## Keywords -/

theorem eq_some_of_orElse {x y : Option (List Char)} {rest : List Char} (h : (x <|> y) = some rest) :
    x = some rest ∨ y = some rest := by
  cases x with
  | some found => exact .inl h
  | none => exact .inr h

theorem wordEnd_eq_some_iff {s rest : List Char} :
    wordEnd s = some rest ↔ s = rest ∧ startsWord rest = false := by
  unfold wordEnd
  split
  · rename_i h
    constructor
    · intro h'
      cases h'
    · rintro ⟨rfl, h'⟩
      rw [h] at h'
      cases h'
  · rename_i h
    rw [Bool.not_eq_true] at h
    constructor
    · intro h'
      cases h'
      exact ⟨rfl, h⟩
    · rintro ⟨rfl, -⟩
      rfl

theorem word_eq_some_iff {pattern : String} {s rest : List Char} :
    word pattern s = some rest ↔
      ∃ piece, s = piece ++ rest ∧ Fits pattern.toList piece ∧ startsWord rest = false := by
  unfold word
  rw [Option.bind_eq_some_iff]
  constructor
  · rintro ⟨t, hdrop, hend⟩
    obtain ⟨rfl, hstart⟩ := wordEnd_eq_some_iff.mp hend
    obtain ⟨piece, rfl, hfits⟩ := dropFold_eq_some_iff.mp hdrop
    exact ⟨piece, rfl, hfits, hstart⟩
  · rintro ⟨piece, rfl, hfits, hstart⟩
    exact ⟨rest, dropFold_eq_some_iff.mpr ⟨piece, rfl, hfits⟩, wordEnd_eq_some_iff.mpr ⟨rfl, hstart⟩⟩

/-- A keyword occurs in a text when it fits one of its words. -/
theorem occurs_word_iff {pattern : String} (hp : IsKeyword pattern.toList) (s : List Char) :
    occurs (word pattern) s = true ↔ ∃ w ∈ words s, Fits pattern.toList w := by
  rw [occurs_iff]
  constructor
  · rintro ⟨a, b, rfl, hend, hsome⟩
    obtain ⟨rest, hrest⟩ := Option.isSome_iff_exists.mp hsome
    obtain ⟨piece, rfl, hfits, hstart⟩ := word_eq_some_iff.mp hrest
    refine ⟨piece, mem_words_iff.mpr ⟨a, rest, (List.append_assoc _ _ _).symm, ?_⟩, hfits⟩
    exact ⟨hfits.ne_nil hp.1, hfits.isWord hp.2, hend, hstart⟩
  · rintro ⟨w, hw, hfits⟩
    obtain ⟨a, b, rfl, hat⟩ := mem_words_iff.mp hw
    refine ⟨a, w ++ b, List.append_assoc _ _ _, hat.before, ?_⟩
    rw [word_eq_some_iff.mpr ⟨w, rfl, hfits, hat.after⟩]
    rfl

/-! ## Pairs of words -/

theorem wordPair_eq_some {first second : String} {s rest : List Char}
    (h : wordPair first second s = some rest) :
    ∃ x gap y, s = x ++ (gap ++ (y ++ rest)) ∧ Fits first.toList x ∧ gap ≠ [] ∧ IsBlanks gap ∧
      Fits second.toList y ∧ startsWord rest = false := by
  unfold wordPair at h
  obtain ⟨t, ht, h₁⟩ := Option.bind_eq_some_iff.mp h
  obtain ⟨u, hu, hsecond⟩ := Option.bind_eq_some_iff.mp h₁
  obtain ⟨x, rfl, hx⟩ := dropFold_eq_some_iff.mp ht
  obtain ⟨gap, hne, hgap, rfl⟩ := someBlanks_eq_some hu
  obtain ⟨y, rfl, hy, hrest⟩ := word_eq_some_iff.mp hsecond
  exact ⟨x, gap, y, rfl, hx, hne, hgap, hy, hrest⟩

theorem wordPair_append {first second : String} {x gap y rest : List Char} (hx : Fits first.toList x)
    (hne : gap ≠ []) (hgap : IsBlanks gap) (hsecond : IsKeyword second.toList) (hy : Fits second.toList y)
    (hrest : startsWord rest = false) : wordPair first second (x ++ (gap ++ (y ++ rest))) = some rest := by
  have hstart : startsWord (y ++ rest) = true := by
    obtain ⟨c, r, rfl⟩ := List.exists_cons_of_ne_nil (hy.ne_nil hsecond.1)
    exact hy.isWord hsecond.2 c List.mem_cons_self
  unfold wordPair
  rw [dropFold_eq_some_iff.mpr ⟨x, rfl, hx⟩]
  change (someBlanks (gap ++ (y ++ rest))).bind (word second) = some rest
  rw [someBlanks_append hne hgap hstart]
  exact word_eq_some_iff.mpr ⟨y, rfl, hy, hrest⟩

theorem exists_sameLetter {pattern piece : List Char} (h : Fits pattern piece) {c : Char} (hc : c ∈ piece) :
    ∃ p ∈ pattern, sameLetter p c = true := by
  induction pattern generalizing piece with
  | nil =>
    rw [(fits_nil_iff piece).mp h] at hc
    cases hc
  | cons p pattern ih =>
    obtain ⟨d, r, rfl, hd, hr⟩ := (fits_cons_iff p pattern piece).mp h
    obtain rfl | hc := List.mem_cons.mp hc
    · exact ⟨p, List.mem_cons_self, hd⟩
    · obtain ⟨q, hq, hsame⟩ := ih hr hc
      exact ⟨q, List.mem_cons_of_mem _ hq, hsame⟩

end TenderQuery.Text
