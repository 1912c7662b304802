import Mathlib.Data.List.Forall2
import TenderQuery.Proofs.Text.Searching

/-!
# Spellings of capital words

Without regard to case an ASCII capital stands for itself, for its small letter and for four letters beyond
ASCII: I for the capital with a dot and the small letter without one, S for the long s, K for the Kelvin sign
(`sameLetter_iff_isFormOf`). A piece of text fits a word of capitals exactly if it spells it letter by letter
(`fits_iff_spells`).
-/
set_option autoImplicit false
namespace TenderQuery.Text

/-- The character counts as the ASCII capital when case is ignored. -/
def IsFormOf (p c : Char) : Prop :=
  c = p ∨ c = p.toLower ∨ (p = 'I' ∧ (c = '\u0130' ∨ c = '\u0131')) ∨ (p = 'S' ∧ c = '\u017f') ∨
    (p = 'K' ∧ c = '\u212a')

instance (p c : Char) : Decidable (IsFormOf p c) := inferInstanceAs (Decidable (_ ∨ _))

/-- The piece spells the word, letter by letter. -/
def Spells (word : String) (piece : List Char) : Prop := List.Forall₂ IsFormOf word.toList piece

/-! ## Letters -/

/-- The code points whose lower case is the one given, for lower case letters that match ASCII letters. -/
def codesOfLower (m : Nat) : List Nat :=
  if m = 105 then [73, 105, 304] else if m = 107 then [75, 107, 8490] else if m < 128 then [m - 32, m] else [m]

theorem toNat_mem_codesOfLower {c : Char} (h : (simpleLower c).toNat ∈ asciiClasses) :
    c.toNat ∈ codesOfLower (simpleLower c).toNat := by
  by_cases hc : c.toNat < 128
  · have hascii : ∀ n < 128, (simpleLower (Char.ofNat n)).toNat ∈ asciiClasses →
        (Char.ofNat n).toNat ∈ codesOfLower (simpleLower (Char.ofNat n)).toNat := by decide
    exact @of_lt_128 (fun c => (simpleLower c).toNat ∈ asciiClasses →
      c.toNat ∈ codesOfLower (simpleLower c).toNat) hascii c hc h
  · have hself : ∀ m ∈ asciiClasses, m ≠ 0 ∧ m ∈ codesOfLower m := by decide
    have hruns : ∀ m ∈ asciiClasses, ∀ run ∈ lowerRuns, (run.first : Int) ≤ m - run.shift →
        (m : Int) - run.shift ≤ run.last → ((m : Int) - run.shift).toNat ∈ codesOfLower m := by
      decide +kernel
    unfold simpleLower at h ⊢
    rw [if_neg hc] at h ⊢
    obtain ⟨hm, hmem⟩ := hself _ h
    exact of_mapByRuns (P := fun n => n ∈ codesOfLower _) hm hmem (hruns _ h) (toNat_ofNat_eq hm rfl)

theorem sameLetter_iff_isFormOf {p : Char} (hp : p.isUpper = true) (c : Char) :
    sameLetter p c = true ↔ IsFormOf p c := by
  have hlt : p.toNat < 128 := lt_128_of_isAlpha (Bool.or_eq_true_iff.mpr (.inl hp))
  constructor
  · intro h
    have hascii : ∀ n < 128, (Char.ofNat n).isUpper = true → isCased (Char.ofNat n) = true ∧
        ∀ m ∈ foldClass (simpleLower (Char.ofNat n)), m ∈ asciiClasses ∧
          ∀ k ∈ codesOfLower m, IsFormOf (Char.ofNat n) (Char.ofNat k) := by decide
    obtain ⟨hcased, hclass⟩ := @of_lt_128 (fun p => p.isUpper = true → isCased p = true ∧
      ∀ m ∈ foldClass (simpleLower p), m ∈ asciiClasses ∧
        ∀ k ∈ codesOfLower m, IsFormOf p (Char.ofNat k)) hascii p hlt hp
    obtain ⟨hlower, hforms⟩ := hclass _ ((sameLetter_iff hcased c).mp h)
    rw [char_eq_ofNat c]
    exact hforms _ (toNat_mem_codesOfLower hlower)
  · have hascii : ∀ n < 128, (Char.ofNat n).isUpper = true →
        sameLetter (Char.ofNat n) (Char.ofNat n) = true ∧
        sameLetter (Char.ofNat n) (Char.ofNat n).toLower = true := by decide
    obtain ⟨hself, hsmall⟩ := @of_lt_128 (fun p => p.isUpper = true → sameLetter p p = true ∧
      sameLetter p p.toLower = true) hascii p hlt hp
    rintro (rfl | rfl | ⟨rfl, rfl | rfl⟩ | ⟨rfl, rfl⟩ | ⟨rfl, rfl⟩)
    · exact hself
    · exact hsmall
    all_goals decide

/-- The small letter of a pattern stands for what the capital stands for. -/
theorem sameLetter_toLower {p : Char} (hp : p.isUpper = true) (c : Char) :
    sameLetter p.toLower c = sameLetter p c := by
  have hlt : p.toNat < 128 := lt_128_of_isAlpha (Bool.or_eq_true_iff.mpr (.inl hp))
  have hascii : ∀ n < 128, (Char.ofNat n).isUpper = true → isCased (Char.ofNat n) = true ∧
      isCased (Char.ofNat n).toLower = true ∧ simpleLower (Char.ofNat n).toLower = simpleLower (Char.ofNat n) := by
    decide
  obtain ⟨hcased, hcased', hlower⟩ := @of_lt_128 (fun p => p.isUpper = true → isCased p = true ∧
    isCased p.toLower = true ∧ simpleLower p.toLower = simpleLower p) hascii p hlt hp
  rw [Bool.eq_iff_iff, sameLetter_iff hcased, sameLetter_iff hcased', hlower]

/-- A form of a capital has it for its upper case, two letters apart. -/
theorem upperChar_of_isFormOf {p c : Char} (hp : p.isUpper = true) (hkelvin : p ≠ 'K')
    (hdotted : p = 'I' → c ≠ '\u0130') (h : IsFormOf p c) : upperChar c = [p] := by
  have hlt : p.toNat < 128 := lt_128_of_isAlpha (Bool.or_eq_true_iff.mpr (.inl hp))
  have hascii : ∀ n < 128, (Char.ofNat n).isUpper = true → upperChar (Char.ofNat n) = [Char.ofNat n] ∧
      upperChar (Char.ofNat n).toLower = [Char.ofNat n] := by decide
  obtain ⟨hself, hsmall⟩ := @of_lt_128 (fun p => p.isUpper = true → upperChar p = [p] ∧
    upperChar p.toLower = [p]) hascii p hlt hp
  obtain rfl | rfl | ⟨rfl, rfl | rfl⟩ | ⟨rfl, rfl⟩ | ⟨rfl, rfl⟩ := h
  · exact hself
  · exact hsmall
  · exact absurd rfl (hdotted rfl)
  · decide
  · decide
  · exact absurd rfl hkelvin

/-! ## Words -/

/-- The word is not empty and consists of ASCII capitals. -/
def IsCapitals (word : String) : Prop := word.toList ≠ [] ∧ ∀ p ∈ word.toList, p.isUpper = true

instance (word : String) : Decidable (IsCapitals word) := inferInstanceAs (Decidable (_ ∧ _))

theorem IsCapitals.isKeyword {word : String} (h : IsCapitals word) : IsKeyword word.toList :=
  ⟨h.1, fun p hp => Bool.or_eq_true_iff.mpr (.inl (h.2 p hp))⟩

theorem fits_iff_forall₂ {pattern : List Char} (hp : ∀ p ∈ pattern, p.isUpper = true) (piece : List Char) :
    Fits pattern piece ↔ List.Forall₂ IsFormOf pattern piece := by
  induction pattern generalizing piece with
  | nil => rw [fits_nil_iff, List.forall₂_nil_left_iff]
  | cons p pattern ih =>
    rw [fits_cons_iff, List.forall₂_cons_left_iff]
    have hrest := ih fun q hq => hp q (List.mem_cons_of_mem _ hq)
    have hletter := sameLetter_iff_isFormOf (hp p List.mem_cons_self)
    constructor
    · rintro ⟨c, r, rfl, hc, hr⟩
      exact ⟨c, r, (hletter c).mp hc, (hrest r).mp hr, rfl⟩
    · rintro ⟨c, r, hc, hr, rfl⟩
      exact ⟨c, r, rfl, (hletter c).mpr hc, (hrest r).mpr hr⟩

theorem fits_iff_spells {word : String} (h : IsCapitals word) (piece : List Char) :
    Fits word.toList piece ↔ Spells word piece :=
  fits_iff_forall₂ h.2 piece

section Pieces
variable {word : String} (h : IsCapitals word) {piece : List Char} (hpiece : Spells word piece)
include h hpiece

theorem IsCapitals.isWord : ∀ c ∈ piece, isWord c = true :=
  ((fits_iff_spells h piece).mpr hpiece).isWord h.isKeyword.2

theorem IsCapitals.ne_nil : piece ≠ [] :=
  ((fits_iff_spells h piece).mpr hpiece).ne_nil h.1

theorem IsCapitals.startsWord (rest : List Char) : startsWord (piece ++ rest) = true := by
  obtain ⟨c, r, rfl⟩ := List.exists_cons_of_ne_nil (h.ne_nil hpiece)
  exact h.isWord hpiece c List.mem_cons_self

theorem IsCapitals.endsWord (front : List Char) : endsWord (front ++ piece) = true := by
  obtain ⟨r, c, rfl⟩ := (List.eq_nil_or_concat piece).resolve_left (h.ne_nil hpiece)
  have hc := h.isWord hpiece c (by simp)
  rw [List.concat_eq_append, ← List.append_assoc, endsWord_concat]
  exact hc

end Pieces

theorem fits_map_toLower {pattern : List Char} (hp : ∀ p ∈ pattern, p.isUpper = true) (piece : List Char) :
    Fits (pattern.map Char.toLower) piece ↔ Fits pattern piece := by
  induction pattern generalizing piece with
  | nil => rfl
  | cons p pattern ih =>
    rw [List.forall_mem_cons] at hp
    rw [List.map_cons, fits_cons_iff, fits_cons_iff]
    simp only [sameLetter_toLower hp.1, ih hp.2]

/-- A word of capitals occurs in a text when a maximal run of word characters spells it. -/
theorem occurs_word_iff_spells {keyword : String} (h : IsCapitals keyword) (s : List Char) :
    occurs (word keyword) s = true ↔ ∃ a w b, s = a ++ w ++ b ∧ IsWordAt a w b ∧ Spells keyword w := by
  rw [occurs_word_iff h.isKeyword]
  constructor
  · rintro ⟨w, hw, hfits⟩
    obtain ⟨a, b, rfl, hat⟩ := mem_words_iff.mp hw
    exact ⟨a, w, b, rfl, hat, (fits_iff_spells h w).mp hfits⟩
  · rintro ⟨a, w, b, rfl, hat, hspells⟩
    exact ⟨w, mem_words_iff.mpr ⟨a, b, rfl, hat⟩, (fits_iff_spells h w).mpr hspells⟩

end TenderQuery.Text
