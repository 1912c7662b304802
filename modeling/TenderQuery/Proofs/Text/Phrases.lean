import TenderQuery.Proofs.Text.Spacing

/-!
# Phrases in a text

A text opens with a phrase or holds it somewhere, without regard to case (`Opens`, `Holds`). A phrase of letters and
marks is spelled by texts with the same blanks. `meets` says whether spellings of two phrases can stand at the same
place: where they cannot, no phrase begins in one text and goes on in the next (`exists_gap_of_endsApart`).
-/
set_option autoImplicit false
namespace TenderQuery.Text

/-- The text begins with a spelling of the phrase. -/
def Opens (phrase s : List Char) : Prop := ∃ piece rest, s = piece ++ rest ∧ Fits phrase piece

/-- A spelling of the phrase stands in the text. -/
def Holds (phrase s : List Char) : Prop := ∃ before piece after, s = before ++ (piece ++ after) ∧ Fits phrase piece

theorem dropFold_isSome_iff {phrase s : List Char} : (dropFold phrase s).isSome = true ↔ Opens phrase s := by
  rw [Option.isSome_iff_exists]
  unfold Opens
  simp only [dropFold_eq_some_iff]
  rw [exists_comm]

instance (phrase s : List Char) : Decidable (Opens phrase s) := decidable_of_iff _ dropFold_isSome_iff

theorem dropFold_eq_none_iff {phrase s : List Char} : dropFold phrase s = none ↔ ¬ Opens phrase s := by
  rw [← dropFold_isSome_iff, Option.not_isSome_iff_eq_none]

/-! ## Searching -/

theorem searchPhrase_isSome_iff {phrase s : List Char} : (searchPhrase phrase s).isSome = true ↔ Holds phrase s := by
  unfold searchPhrase
  rw [scan_isSome_iff]
  constructor
  · rintro ⟨a, b, rfl, hsome⟩
    obtain ⟨piece, rest, rfl, hfits⟩ := dropFold_isSome_iff.mp hsome
    exact ⟨a, piece, rest, rfl, hfits⟩
  · rintro ⟨a, piece, rest, rfl, hfits⟩
    exact ⟨a, piece ++ rest, rfl, dropFold_isSome_iff.mpr ⟨piece, rest, rfl, hfits⟩⟩

instance (phrase s : List Char) : Decidable (Holds phrase s) := decidable_of_iff _ searchPhrase_isSome_iff

theorem searchPhrase_eq_none_iff {phrase s : List Char} : searchPhrase phrase s = none ↔ ¬ Holds phrase s := by
  rw [← searchPhrase_isSome_iff, Option.not_isSome_iff_eq_none]

theorem searchPhrase_eq_some {phrase s before rest : List Char} (h : searchPhrase phrase s = some (before, rest)) :
    ∃ piece, s = before ++ (piece ++ rest) ∧ Fits phrase piece := by
  obtain ⟨after, rfl, hafter⟩ := scan_eq_some h
  obtain ⟨piece, rfl, hfits⟩ := dropFold_eq_some_iff.mp hafter
  exact ⟨piece, rfl, hfits⟩

/-- A phrase is found where it stands, if it stands nowhere before. -/
theorem searchPhrase_append {phrase before piece rest : List Char} (hfits : Fits phrase piece)
    (hfirst : ∀ x y, before = x ++ y → y ≠ [] → ¬ Opens phrase (y ++ (piece ++ rest))) :
    searchPhrase phrase (before ++ (piece ++ rest)) = some (before, rest) := by
  have hdrop : dropFold phrase (piece ++ rest) = some rest := dropFold_eq_some_iff.mpr ⟨piece, rfl, hfits⟩
  induction before with
  | nil =>
    unfold searchPhrase
    rw [List.nil_append]
    cases hs : piece ++ rest with
    | nil =>
      rw [hs] at hdrop
      simp [scan, hdrop]
    | cons c r =>
      rw [hs] at hdrop
      simp [scan, hdrop]
  | cons c before ih =>
    have hnone : dropFold phrase (c :: (before ++ (piece ++ rest))) = none :=
      dropFold_eq_none_iff.mpr (hfirst [] (c :: before) rfl (List.cons_ne_nil c before))
    have hrest := ih fun x y heq hne => hfirst (c :: x) y (by rw [heq, List.cons_append]) hne
    unfold searchPhrase at hrest ⊢
    rw [List.cons_append, scan, hnone]
    simp [hrest]

/-! ## The blanks of a phrase -/

/-- The phrase consists of ASCII letters and of characters without case. -/
def IsPhrase (phrase : List Char) : Prop := ∀ p ∈ phrase, p.isAlpha = true ∨ isCased p = false

instance (phrase : List Char) : Decidable (IsPhrase phrase) :=
  inferInstanceAs (Decidable (∀ p ∈ phrase, p.isAlpha = true ∨ isCased p = false))

theorem eq_of_sameLetter {p c : Char} (hp : p.isAlpha = true ∨ isCased p = false) (h : sameLetter p c = true)
    (hc : isWord c = false) : p = c := by
  obtain hp | hp := hp
  · rw [isWord_of_sameLetter hp h] at hc
    cases hc
  · exact (sameLetter_iff_eq hp c).mp h

theorem exists_append_of_fits {phrase x y : List Char} (h : Fits phrase (x ++ y)) :
    ∃ front back, phrase = front ++ back ∧ Fits front x ∧ Fits back y := by
  induction x generalizing phrase with
  | nil => exact ⟨[], phrase, rfl, (fits_nil_iff []).mpr rfl, h⟩
  | cons c x ih =>
    cases phrase with
    | nil => exact absurd ((fits_nil_iff _).mp h) (List.cons_ne_nil _ _)
    | cons p phrase =>
      obtain ⟨d, r, heq, hd, hr⟩ := (fits_cons_iff p phrase _).mp h
      cases heq
      obtain ⟨front, back, rfl, hfront, hback⟩ := ih hr
      exact ⟨p :: front, back, rfl, (fits_cons_iff p front _).mpr ⟨c, x, rfl, hd, hfront⟩, hback⟩

theorem eq_nil_of_fits_nil {phrase : List Char} (h : Fits phrase []) : phrase = [] :=
  List.eq_nil_of_length_eq_zero (length_of_fits h).symm

/-- A mark or blank in a spelling stands for itself, between spellings of what stands on either side of it. -/
theorem exists_mark_of_fits {phrase x y : List Char} {c : Char} (h : Fits phrase (x ++ c :: y))
    (hphrase : IsPhrase phrase) (hc : isWord c = false) :
    ∃ front back, phrase = front ++ c :: back ∧ Fits front x ∧ Fits back y := by
  obtain ⟨front, back, rfl, hfront, hback⟩ := exists_append_of_fits h
  cases back with
  | nil => exact absurd ((fits_nil_iff _).mp hback) (List.cons_ne_nil c y)
  | cons p back =>
    obtain ⟨d, t, heq, hd, ht⟩ := (fits_cons_iff p back _).mp hback
    cases heq
    obtain rfl := eq_of_sameLetter (hphrase p (by simp)) hd hc
    exact ⟨front, back, rfl, hfront, ht⟩

section Blanks
variable {phrase piece : List Char} (h : Fits phrase piece) (hphrase : IsPhrase phrase)
include h hphrase

theorem not_mem_of_fits {c : Char} (hc : isWord c = false) (hnot : c ∉ phrase) : c ∉ piece := by
  intro hmem
  obtain ⟨x, y, rfl⟩ := List.append_of_mem hmem
  obtain ⟨front, back, rfl, -⟩ := exists_mark_of_fits h hphrase hc
  exact hnot (by simp)

theorem isEvenlySpaced_of_fits (heven : IsEvenlySpaced phrase) : IsEvenlySpaced piece := by
  constructor
  · intro c hc hblank
    apply Decidable.not_not.mp
    intro hne
    have hnot : c ∉ phrase := fun hmem => hne (heven.spaces c hmem hblank)
    exact not_mem_of_fits h hphrase (isWord_of_isBlank hblank) hnot hc
  · rintro ⟨x, y, rfl⟩
    have hspace : isWord ' ' = false := by decide
    rw [List.append_assoc] at h
    obtain ⟨front, back, rfl, -, hback⟩ := exists_mark_of_fits h hphrase hspace
    have hrest : IsPhrase back := fun p hp => hphrase p (by simp [hp])
    obtain ⟨front', back', rfl, hfront', -⟩ := @exists_mark_of_fits back [] y ' ' hback hrest hspace
    obtain rfl := eq_nil_of_fits_nil hfront'
    exact heven.single ⟨front, back', by simp⟩

theorem isUnpadded_of_fits (hends : IsUnpadded phrase) : IsUnpadded piece := by
  constructor
  · intro c hc
    obtain ⟨r, rfl⟩ := List.head?_eq_some_iff.mp hc
    rw [← Bool.not_eq_true]
    intro hblank
    obtain ⟨front, back, rfl, hfront, -⟩ := @exists_mark_of_fits _ [] r c h hphrase (isWord_of_isBlank hblank)
    obtain rfl := eq_nil_of_fits_nil hfront
    simp [hends.front c rfl] at hblank
  · intro c hc
    obtain ⟨r, rfl⟩ := List.getLast?_eq_some_iff.mp hc
    rw [← Bool.not_eq_true]
    intro hblank
    obtain ⟨front, back, rfl, -, hback⟩ := exists_mark_of_fits h hphrase (isWord_of_isBlank hblank)
    obtain rfl := eq_nil_of_fits_nil hback
    simp [hends.back c (by simp)] at hblank

end Blanks

/-! ## Phrases at one place -/

/-- Some letter matches both. -/
def lettersMeet (p q : Char) : Bool :=
  if isCased p && isCased q then (foldClass (simpleLower p)).any fun n => (foldClass (simpleLower q)).contains n
  else sameLetter p q || sameLetter q p

/-- Some text may begin with spellings of both. -/
def meets : List Char → List Char → Bool
  | p :: phrase, q :: other => lettersMeet p q && meets phrase other
  | _, _ => true

theorem lettersMeet_of_sameLetter {p q c : Char} (hp : sameLetter p c = true) (hq : sameLetter q c = true) :
    lettersMeet p q = true := by
  unfold lettersMeet
  split
  · rename_i hcased
    rw [Bool.and_eq_true] at hcased
    exact sameLetter_inter hcased.1 hcased.2 hp hq
  · rename_i hcased
    rw [Bool.or_eq_true]
    by_cases hcase : isCased p = true
    · have hcase' : isCased q = false := by simpa [hcase] using hcased
      exact .inl ((sameLetter_iff_eq hcase' c).mp hq ▸ hp)
    · rw [Bool.not_eq_true] at hcase
      exact .inr ((sameLetter_iff_eq hcase c).mp hp ▸ hq)

theorem meets_of_fits {phrase other x y u v : List Char} (hx : Fits phrase x) (hy : Fits other y)
    (heq : x ++ u = y ++ v) : meets phrase other = true := by
  induction phrase generalizing other x y with
  | nil => simp [meets]
  | cons p phrase ih =>
    cases other with
    | nil => simp [meets]
    | cons q other =>
      obtain ⟨c, x, rfl, hc, hrest⟩ := (fits_cons_iff p phrase _).mp hx
      obtain ⟨d, y, rfl, hd, hrest'⟩ := (fits_cons_iff q other _).mp hy
      rw [List.cons_append, List.cons_append, List.cons.injEq] at heq
      obtain ⟨rfl, heq⟩ := heq
      rw [meets, lettersMeet_of_sameLetter hc hd, Bool.true_and]
      exact ih hrest hrest' heq

/-- No part at the end of the phrase, the whole phrase included, can stand where the other phrase stands. -/
def endsApart : List Char → List Char → Bool
  | [], _ => true
  | p :: phrase, other => !meets (p :: phrase) other && endsApart phrase other

theorem not_meets_of_endsApart {front back other : List Char} (h : endsApart (front ++ back) other = true)
    (hne : back ≠ []) : meets back other = false := by
  induction front with
  | nil =>
    cases back with
    | nil => exact absurd rfl hne
    | cons p back =>
      rw [List.nil_append, endsApart, Bool.and_eq_true, Bool.not_eq_true'] at h
      exact h.1
  | cons p front ih =>
    rw [List.cons_append, endsApart, Bool.and_eq_true] at h
    exact ih h.2

section Apart
variable {phrase other piece : List Char} (hpiece : Fits other piece) (hapart : endsApart phrase other = true)
include hpiece hapart

/-- A spelling of the phrase that begins no later than one of the other ends before that one. -/
theorem exists_gap_of_endsApart {found before after rest : List Char} (hfound : Fits phrase found)
    (heq : found ++ after = before ++ (piece ++ rest)) : ∃ gap, before = found ++ gap := by
  obtain ⟨more, hbefore, -⟩ | ⟨excess, rfl, hexcess⟩ := List.append_eq_append_iff.mp heq
  · exact ⟨more, hbefore⟩
  · obtain ⟨front, back, rfl, -, hback⟩ := exists_append_of_fits hfound
    by_cases hne : back = []
    · subst hne
      rw [(fits_nil_iff excess).mp hback]
      exact ⟨[], by simp⟩
    · have hmeets := meets_of_fits hback hpiece hexcess.symm
      rw [not_meets_of_endsApart hapart hne] at hmeets
      cases hmeets

/-- A phrase that opens a text with another phrase in it ends before that one. -/
theorem opens_of_opens_append {s rest : List Char} (h : Opens phrase (s ++ (piece ++ rest))) : Opens phrase s := by
  obtain ⟨found, after, heq, hfound⟩ := h
  obtain ⟨gap, hs⟩ := exists_gap_of_endsApart hpiece hapart hfound heq.symm
  exact ⟨found, gap, hs, hfound⟩

/-- Before a place where another phrase stands, the phrase opens the text nowhere unless it stands there itself. -/
theorem holds_of_opens_append {s rest x y : List Char} (hs : s = x ++ y) (h : Opens phrase (y ++ (piece ++ rest))) :
    Holds phrase s := by
  obtain ⟨found, after, hy, hfound⟩ := opens_of_opens_append hpiece hapart h
  exact ⟨x, found, after, by rw [hs, hy], hfound⟩

end Apart

end TenderQuery.Text
