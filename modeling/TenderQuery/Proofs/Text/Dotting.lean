import TenderQuery.Proofs.Text.Lowering
import TenderQuery.Text.Digit

/-!
# Words and digits in lower case

Lower case makes a word character out of each word character and out of no other one, and it leaves digits alone
(`isWord_simpleLower`, `simpleLower_of_isDecimalDigit`). The one exception is the capital I with a dot: its lower
case ends with a mark that is no part of a word. `Lowered` goes through a text and its lower case at once
(`lowered_lower`).

The tables are decided run by run: a run of the case table and its image mostly lie inside one range of word
characters each, or outside of all of them (`keepsWords_lowerRuns`), and outside of all digits
(`avoids_digitCodes`).
-/
set_option autoImplicit false
namespace TenderQuery.Text

/-! ## Runs and ranges -/

/-- One of the ranges holds all code points from `first` to `last`. -/
def covers (ranges : List (Nat × Nat)) (first last : Nat) : Bool :=
  ranges.any fun range => Nat.ble range.1 first && Nat.ble last range.2

/-- None of the ranges holds a code point from `first` to `last`. -/
def avoids (ranges : List (Nat × Nat)) (first last : Nat) : Bool :=
  ranges.all fun range => Nat.ble (last + 1) range.1 || Nat.ble (range.2 + 1) first

theorem inRanges_of_covers {ranges : List (Nat × Nat)} {first last n : Nat} (h : covers ranges first last = true)
    (hfirst : first ≤ n) (hlast : n ≤ last) : inRanges ranges n = true := by
  obtain ⟨range, hmem, hrange⟩ := List.any_eq_true.mp h
  rw [Bool.and_eq_true, Nat.ble_eq, Nat.ble_eq] at hrange
  refine List.any_eq_true.mpr ⟨range, hmem, ?_⟩
  rw [Bool.and_eq_true, decide_eq_true_eq, decide_eq_true_eq]
  exact ⟨Nat.le_trans hrange.1 hfirst, Nat.le_trans hlast hrange.2⟩

theorem inRanges_of_avoids {ranges : List (Nat × Nat)} {first last n : Nat} (h : avoids ranges first last = true)
    (hfirst : first ≤ n) (hlast : n ≤ last) : inRanges ranges n = false := by
  refine List.any_eq_false.mpr fun range hmem => ?_
  have hrange := List.all_eq_true.mp h range hmem
  rw [Bool.or_eq_true, Nat.ble_eq, Nat.ble_eq] at hrange
  rw [Bool.and_eq_true, decide_eq_true_eq, decide_eq_true_eq]
  omega

theorem covers_of_covers {ranges more : List (Nat × Nat)}
    (h : ∀ range ∈ ranges, covers more range.1 range.2 = true) {n : Nat} (hn : covers ranges n n = true) :
    inRanges more n = true := by
  obtain ⟨range, hmem, hrange⟩ := List.any_eq_true.mp hn
  rw [Bool.and_eq_true, Nat.ble_eq, Nat.ble_eq] at hrange
  exact inRanges_of_covers (h range hmem) hrange.1 hrange.2

/-! ## The tables -/

def asciiWordRanges : List (Nat × Nat) := [(48, 57), (65, 90), (95, 95), (97, 122)]

def wordCodes : List (Nat × Nat) := asciiWordRanges ++ wordRanges

def digitCodes : List (Nat × Nat) := (48 :: digitZeros).map fun first => (first, first + 9)

/-- The ranges of the runs in which word characters and others take turns. -/
def mixedRanges : List (Nat × Nat) :=
  [(8016, 8023), (8025, 8025), (8027, 8027), (8029, 8029), (8031, 8061), (66928, 66938), (66940, 66954),
   (66956, 66962), (66964, 66965), (66967, 66977), (66979, 66993), (66995, 67001), (67003, 67004)]

theorem covers_mixedRanges : ∀ range ∈ mixedRanges, covers wordCodes range.1 range.2 = true := by decide +kernel

namespace CaseRun

/-- The run maps word characters to word characters and others to others. -/
def keepsWords (run : CaseRun) : Bool :=
  covers wordCodes run.first run.last && covers wordCodes (run.image run.first) (run.image run.last)
    || avoids wordCodes run.first run.last && avoids wordCodes (run.image run.first) (run.image run.last)
    || (List.range ((run.last - run.first) / run.step + 1)).all fun k =>
        covers mixedRanges (run.first + k * run.step) (run.first + k * run.step) &&
          covers mixedRanges (run.image (run.first + k * run.step)) (run.image (run.first + k * run.step))

theorem image_le_image {run : CaseRun} {m n : Nat} (h : m ≤ n) : run.image m ≤ run.image n := by
  unfold image
  omega

theorem inRanges_image {run : CaseRun} (h : run.keepsWords = true) {n : Nat} (hfirst : run.first ≤ n)
    (hlast : n ≤ run.last) (hstep : (n - run.first) % run.step = 0) :
    inRanges wordCodes (run.image n) = inRanges wordCodes n := by
  unfold keepsWords at h
  rw [Bool.or_eq_true, Bool.or_eq_true, Bool.and_eq_true, Bool.and_eq_true] at h
  obtain (⟨hrun, hrun'⟩ | ⟨hrun, hrun'⟩) | heach := h
  · rw [inRanges_of_covers hrun hfirst hlast,
      inRanges_of_covers hrun' (image_le_image hfirst) (image_le_image hlast)]
  · rw [inRanges_of_avoids hrun hfirst hlast,
      inRanges_of_avoids hrun' (image_le_image hfirst) (image_le_image hlast)]
  · have hcode : run.first + (n - run.first) / run.step * run.step = n := by
      rw [Nat.div_mul_cancel (Nat.dvd_of_mod_eq_zero hstep), Nat.add_sub_cancel' hfirst]
    have hk : (n - run.first) / run.step ∈ List.range ((run.last - run.first) / run.step + 1) :=
      List.mem_range.mpr (Nat.lt_succ_of_le (Nat.div_le_div_right (Nat.sub_le_sub_right hlast _)))
    have hboth := List.all_eq_true.mp heach _ hk
    rw [hcode, Bool.and_eq_true] at hboth
    rw [covers_of_covers covers_mixedRanges hboth.1, covers_of_covers covers_mixedRanges hboth.2]

end CaseRun

theorem keepsWords_lowerRuns : ∀ run ∈ lowerRuns, run.keepsWords = true := by decide +kernel

theorem avoids_digitCodes : ∀ run ∈ lowerRuns, avoids digitCodes run.first run.last = true ∧
    avoids digitCodes (run.image run.first) (run.image run.last) = true := by decide +kernel

/-- All images are code points. -/
theorem isCode_image : ∀ run ∈ lowerRuns, run.image run.last < 0xD800 ∨
    0xDFFF < run.image run.first ∧ run.image run.last < 0x110000 := by decide +kernel

/-! ## Characters -/

theorem isWord_eq (c : Char) : isWord c = inRanges wordCodes c.toNat := by
  have hsplit : inRanges wordCodes c.toNat = (inRanges asciiWordRanges c.toNat || inRanges wordRanges c.toNat) :=
    List.any_append
  rw [hsplit]
  by_cases hc : c.toNat < 128
  · have hascii : ∀ n < 128, isWord (Char.ofNat n) = inRanges asciiWordRanges (Char.ofNat n).toNat := by decide
    have hbeyond : avoids wordRanges 0 127 = true := by decide +kernel
    rw [inRanges_of_avoids hbeyond (Nat.zero_le _) (Nat.le_of_lt_succ hc), Bool.or_false]
    exact @of_lt_128 (fun c => isWord c = inRanges asciiWordRanges c.toNat) hascii c hc
  · have hbelow : avoids asciiWordRanges 128 c.toNat = true := by
      unfold avoids asciiWordRanges
      simp
    rw [inRanges_of_avoids hbelow (Nat.le_of_not_lt hc) (Nat.le_refl _), Bool.false_or]
    unfold isWord
    rw [if_neg hc]

theorem inRanges_of_isDecimalDigit {c : Char} (h : isDecimalDigit c = true) : inRanges digitCodes c.toNat = true := by
  by_cases hc : c.toNat < 128
  · have hascii : ∀ n < 128, isDecimalDigit (Char.ofNat n) = true →
        inRanges digitCodes (Char.ofNat n).toNat = true := by decide +kernel
    exact @of_lt_128 (fun c => isDecimalDigit c = true → inRanges digitCodes c.toNat = true) hascii c hc h
  · unfold isDecimalDigit digitValue? at h
    rw [if_neg hc, Option.isSome_map, List.find?_isSome] at h
    obtain ⟨first, hmem, hrange⟩ := h
    rw [Bool.and_eq_true, decide_eq_true_eq, decide_eq_true_eq] at hrange
    refine List.any_eq_true.mpr ⟨(first, first + 9), List.mem_map_of_mem (List.mem_cons_of_mem _ hmem), ?_⟩
    rw [Bool.and_eq_true, decide_eq_true_eq, decide_eq_true_eq]
    exact ⟨hrange.1, Nat.le_of_lt_succ hrange.2⟩

/-- The code point of the lower case of a letter beyond ASCII. -/
theorem toNat_simpleLower {c : Char} (hc : ¬ c.toNat < 128) : (simpleLower c).toNat = mapByRuns lowerRuns c.toNat := by
  have hvalid : (mapByRuns lowerRuns c.toNat).isValidChar := by
    obtain heq | ⟨run, hmem, hfirst, hlast, -, heq⟩ := mapByRuns_eq_or lowerRuns c.toNat
    · rw [heq]
      exact c.valid
    · have hbelow := run.image_le_image hfirst
      have habove := run.image_le_image hlast
      rw [heq]
      unfold Nat.isValidChar
      have hcode := isCode_image run hmem
      omega
  unfold simpleLower
  rw [if_neg hc, Char.ofNat, dif_pos hvalid]
  rfl

theorem isWord_simpleLower (c : Char) : isWord (simpleLower c) = isWord c := by
  by_cases hc : c.toNat < 128
  · have hascii : ∀ n < 128, isWord (simpleLower (Char.ofNat n)) = isWord (Char.ofNat n) := by decide
    exact @of_lt_128 (fun c => isWord (simpleLower c) = isWord c) hascii c hc
  · rw [isWord_eq, isWord_eq, toNat_simpleLower hc]
    obtain heq | ⟨run, hmem, hfirst, hlast, hstep, heq⟩ := mapByRuns_eq_or lowerRuns c.toNat
    · rw [heq]
    · rw [heq, CaseRun.inRanges_image (keepsWords_lowerRuns run hmem) hfirst hlast hstep]

/-- Digits have no case. -/
theorem simpleLower_of_isDecimalDigit {c : Char}
    (h : isDecimalDigit c = true ∨ isDecimalDigit (simpleLower c) = true) : simpleLower c = c := by
  by_cases hc : c.toNat < 128
  · have hascii : ∀ n < 128,
        isDecimalDigit (Char.ofNat n) = true ∨ isDecimalDigit (simpleLower (Char.ofNat n)) = true →
        simpleLower (Char.ofNat n) = Char.ofNat n := by decide
    exact @of_lt_128 (fun c => isDecimalDigit c = true ∨ isDecimalDigit (simpleLower c) = true → simpleLower c = c)
      hascii c hc h
  · have hcodes := h.imp inRanges_of_isDecimalDigit inRanges_of_isDecimalDigit
    rw [toNat_simpleLower hc] at hcodes
    have heq : mapByRuns lowerRuns c.toNat = c.toNat := by
      obtain heq | ⟨run, hmem, hfirst, hlast, -, heq⟩ := mapByRuns_eq_or lowerRuns c.toNat
      · exact heq
      · obtain ⟨havoids, havoids'⟩ := avoids_digitCodes run hmem
        rw [heq, inRanges_of_avoids havoids hfirst hlast,
          inRanges_of_avoids havoids' (run.image_le_image hfirst) (run.image_le_image hlast), or_self] at hcodes
        cases hcodes
    unfold simpleLower
    rw [if_neg hc, heq, Char.ofNat_toNat]

/-! ## Texts -/

/-- The capital I with a dot above. -/
def dottedI : Char := Char.ofNat 0x130

/-- The mark that ends the lower case of the dotted capital I. -/
def dotAbove : Char := Char.ofNat 0x307

/-- Two characters that are alike for the reader of words and digits. -/
structure Resembles (c d : Char) : Prop where
  word : isWord d = isWord c
  digit : isDecimalDigit c = true ∨ isDecimalDigit d = true → d = c

theorem resembles_simpleLower (c : Char) : Resembles c (simpleLower c) :=
  ⟨isWord_simpleLower c, simpleLower_of_isDecimalDigit⟩

/-- A text and its lower case, character by character. -/
inductive Lowered : List Char → List Char → Prop where
  | nil : Lowered [] []
  | letter {c d : Char} {s low : List Char} (plain : c ≠ dottedI) (resembles : Resembles c d) (rest : Lowered s low) :
      Lowered (c :: s) (d :: low)
  | dotted {s low : List Char} (rest : Lowered s low) : Lowered (dottedI :: s) ('i' :: dotAbove :: low)

theorem lowered_lowerFrom (after : Bool) (s : List Char) : Lowered s (lowerFrom after s) := by
  -- A capital sigma has two small forms, and which one is taken depends on what stands around it.
  induction s generalizing after with
  | nil => exact .nil
  | cons c s ih =>
    rw [lowerFrom]
    split
    · rename_i hc
      rw [toLower_eq_simpleLower hc]
      exact .letter (fun h => absurd (h ▸ hc) (by decide)) (resembles_simpleLower c) (ih _)
    · split
      · rename_i hc
        obtain rfl : c = Char.ofNat 0x3A3 := by rw [← hc, ← char_eq_ofNat]
        have hsigma : ∀ ends : Bool, isWord (Char.ofNat (if ends then 0x3C2 else 0x3C3)) = true ∧
            isDecimalDigit (Char.ofNat (if ends then 0x3C2 else 0x3C3)) = false := by decide +kernel
        have hcapital : isWord (Char.ofNat 0x3A3) = true ∧ isDecimalDigit (Char.ofNat 0x3A3) = false := by
          decide +kernel
        refine .letter (by decide) ⟨(hsigma _).1.trans hcapital.1.symm, fun h => ?_⟩ (ih _)
        rw [hcapital.2, (hsigma _).2, or_self] at h
        cases h
      · unfold lowerChar
        split
        · rename_i hc
          obtain rfl : c = dottedI := by rw [char_eq_ofNat c, hc]; rfl
          exact .dotted (ih _)
        · rename_i hc
          exact .letter (fun h => hc (h ▸ by decide)) (resembles_simpleLower c) (ih _)

theorem lowered_lower (s : List Char) : Lowered s (lower s) := lowered_lowerFrom false s

namespace Lowered
variable {s low : List Char}

theorem startsWord_eq (h : Lowered s low) : startsWord low = startsWord s := by
  cases h with
  | nil => rfl
  | letter plain resembles rest => exact resembles.word
  | dotted rest =>
    have hword : isWord dottedI = true := by decide +kernel
    exact hword.symm

/-- Digits stand in the lower case where they stand in the text. -/
theorem of_digits {w r : List Char} (hw : ∀ c ∈ w, isDecimalDigit c = true) (h : Lowered (w ++ r) low) :
    ∃ low', low = w ++ low' ∧ Lowered r low' := by
  induction w generalizing low with
  | nil => exact ⟨low, rfl, h⟩
  | cons c w ih =>
    rw [List.forall_mem_cons] at hw
    cases h with
    | letter plain resembles rest =>
      obtain ⟨low', rfl, hrest⟩ := ih hw.2 rest
      exact ⟨low', by rw [resembles.digit (.inl hw.1), List.cons_append], hrest⟩
    | dotted rest =>
      have hdotted : isDecimalDigit dottedI = false := by decide +kernel
      rw [hdotted] at hw
      cases hw.1

theorem of_digits_lower {w r : List Char} (hw : ∀ c ∈ w, isDecimalDigit c = true) (h : Lowered s (w ++ r)) :
    ∃ s', s = w ++ s' ∧ Lowered s' r := by
  induction w generalizing s with
  | nil => exact ⟨s, rfl, h⟩
  | cons c w ih =>
    rw [List.forall_mem_cons] at hw
    rw [List.cons_append] at h
    generalize htail : w ++ r = tail at h
    cases h with
    | letter plain resembles rest =>
      subst htail
      obtain ⟨s', rfl, hrest⟩ := ih hw.2 rest
      exact ⟨s', by rw [resembles.digit (.inr hw.1), List.cons_append], hrest⟩
    | dotted rest => exact absurd hw.1 (by decide)

end Lowered

end TenderQuery.Text
