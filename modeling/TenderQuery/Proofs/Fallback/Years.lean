import TenderQuery.Fallback.Year
import TenderQuery.Proofs.Text.Dotting
import TenderQuery.Proofs.Text.Words

/-!
# The year of a question

The year of a text is that of the first word which is a year (`year_eq_findSome`), a number from 1900 to 2099. The
lower case of a text names the same year, unless a year stands in it directly behind a dotted capital I: in lower
case a word ends there, so that the year stands alone (`year_lower`). `Misread` texts are those that name another
year in lower case, or name none before they are put into it (`year_lower_ne_iff`).
-/
set_option autoImplicit false
namespace TenderQuery.Fallback
open TenderQuery.Text

/-! ## The spelling of a year -/

/-- The text consists of 19 or 20 and two decimal digits, which write the number. -/
structure IsYear (w : List Char) (n : Nat) : Prop where
  century : ∃ c d, w = ['1', '9', c, d] ∨ w = ['2', '0', c, d]
  value : digitsValue? w = some n

theorem isDecimalDigit_of_digitsValueFrom {value n : Nat} {s : List Char} (h : digitsValueFrom value s = some n) :
    ∀ c ∈ s, isDecimalDigit c = true := by
  induction s generalizing value with
  | nil => exact List.forall_mem_nil _
  | cons c s ih =>
    rw [digitsValueFrom] at h
    obtain ⟨d, hd, hrest⟩ := Option.bind_eq_some_iff.mp h
    exact List.forall_mem_cons.mpr ⟨Option.isSome_iff_exists.mpr ⟨d, hd⟩, ih hrest⟩

theorem isWord_of_isDecimalDigit {c : Char} (h : isDecimalDigit c = true) : isWord c = true := by
  have hcodes : ∀ range ∈ digitCodes, covers wordCodes range.1 range.2 = true := by decide +kernel
  obtain ⟨range, hmem, hrange⟩ := List.any_eq_true.mp (inRanges_of_isDecimalDigit h)
  rw [Bool.and_eq_true, decide_eq_true_eq, decide_eq_true_eq] at hrange
  rw [isWord_eq]
  exact inRanges_of_covers (hcodes range hmem) hrange.1 hrange.2

theorem digitValue_lt {c : Char} {d : Nat} (h : digitValue? c = some d) : d < 10 := by
  unfold digitValue? at h
  dsimp only at h
  by_cases hc : c.toNat < 128
  · rw [if_pos hc, Option.ite_none_right_eq_some] at h
    obtain ⟨hdigit, heq⟩ := h
    have hlast := (Char.isDigit_iff_toNat.mp hdigit).2
    cases heq
    change c.toNat ≤ 57 at hlast
    omega
  · rw [if_neg hc] at h
    obtain ⟨first, hfind, rfl⟩ := Option.map_eq_some_iff.mp h
    have hrange := List.find?_some hfind
    rw [Bool.and_eq_true, decide_eq_true_eq, decide_eq_true_eq] at hrange
    omega

namespace IsYear
variable {w : List Char} {n : Nat}

theorem digits (h : IsYear w n) : ∀ c ∈ w, isDecimalDigit c = true := by
  obtain ⟨⟨c, d, rfl | rfl⟩, hvalue⟩ := h
  · exact isDecimalDigit_of_digitsValueFrom hvalue
  · exact isDecimalDigit_of_digitsValueFrom hvalue

theorem isWord (h : IsYear w n) : ∀ c ∈ w, isWord c = true := fun c hc => isWord_of_isDecimalDigit (h.digits c hc)

theorem bounds (h : IsYear w n) : 1900 ≤ n ∧ n ≤ 2099 := by
  have hend : ∀ century c d, digitsValueFrom century [c, d] = some n →
      century * 100 ≤ n ∧ n ≤ century * 100 + 99 := by
    intro century c d hvalue
    obtain ⟨x, hx, hrest⟩ := Option.bind_eq_some_iff.mp hvalue
    obtain ⟨y, hy, hn⟩ := Option.bind_eq_some_iff.mp hrest
    have hlt := digitValue_lt hx
    have hlt' := digitValue_lt hy
    cases hn
    omega
  obtain ⟨⟨c, d, rfl | rfl⟩, hvalue⟩ := h
  · have hrange := hend 19 c d hvalue
    omega
  · have hrange := hend 20 c d hvalue
    omega

end IsYear

theorem readYear_eq_some_iff {s : List Char} {n : Nat} :
    readYear s = some n ↔ ∃ w r, s = w ++ r ∧ IsYear w n ∧ startsWord r = false := by
  constructor
  · intro h
    unfold readYear at h
    split at h
    · rename_i a b c d r
      split at h
      · rename_i hyear
        simp only [Bool.and_eq_true, Bool.or_eq_true, beq_iff_eq, Bool.not_eq_true'] at hyear
        obtain ⟨hcentury, hr⟩ := hyear
        refine ⟨[a, b, c, d], r, rfl, ⟨⟨c, d, ?_⟩, h⟩, hr⟩
        obtain ⟨rfl, rfl⟩ | ⟨rfl, rfl⟩ := hcentury
        · exact .inl rfl
        · exact .inr rfl
      · cases h
    · cases h
  · rintro ⟨w, r, rfl, ⟨⟨c, d, rfl | rfl⟩, hvalue⟩, hr⟩
    · simp only [readYear, List.cons_append, List.nil_append, hr]
      exact hvalue
    · simp only [readYear, List.cons_append, List.nil_append, hr]
      exact hvalue

/-- A year reaches to the end of the word it begins. -/
theorem readYear_takeWhile (s : List Char) : readYear (s.takeWhile isWord) = readYear s := by
  ext n
  rw [readYear_eq_some_iff, readYear_eq_some_iff]
  constructor
  · rintro ⟨w, r, hs, hw, hr⟩
    refine ⟨w, r ++ s.dropWhile isWord, ?_, hw, ?_⟩
    · rw [← List.append_assoc, ← hs, List.takeWhile_append_dropWhile]
    · cases r with
      | nil => exact startsWord_dropWhile s
      | cons c r => exact hr
  · rintro ⟨w, r, rfl, hw, hr⟩
    refine ⟨w, [], ?_, hw, rfl⟩
    rw [List.takeWhile_append_of_pos hw.isWord]
    cases r with
    | nil => rfl
    | cons c r =>
      have hc : ¬ Text.isWord c = true := Bool.eq_false_iff.mp hr
      rw [List.takeWhile_cons_of_neg hc]

/-- A word is read as a whole. -/
theorem readYear_word_iff {w : List Char} (h : ∀ c ∈ w, isWord c = true) {n : Nat} :
    readYear w = some n ↔ IsYear w n := by
  rw [readYear_eq_some_iff]
  constructor
  · rintro ⟨v, r, rfl, hv, hr⟩
    cases r with
    | nil =>
      rw [List.append_nil]
      exact hv
    | cons c r =>
      have hc : isWord c = true := h c (List.mem_append_right _ List.mem_cons_self)
      exact absurd hc (Bool.eq_false_iff.mp hr)
  · intro hw
    exact ⟨w, [], (List.append_nil w).symm, hw, rfl⟩

theorem readYear_of_not_isDecimalDigit {c : Char} (hc : isDecimalDigit c = false) (s : List Char) :
    readYear (c :: s) = none := by
  refine Option.eq_none_iff_forall_ne_some.mpr fun n hn => ?_
  obtain ⟨w, r, hs, hw, -⟩ := readYear_eq_some_iff.mp hn
  have hmem : c ∈ w := by
    obtain ⟨⟨d, e, rfl | rfl⟩, -⟩ := hw
    · exact (List.cons.inj hs).1 ▸ List.mem_cons_self
    · exact (List.cons.inj hs).1 ▸ List.mem_cons_self
  have hdigit := hw.digits c hmem
  rw [hc] at hdigit
  cases hdigit

/-- Lower case begins with a year where the text does. -/
theorem readYear_lowered {s low : List Char} (h : Lowered s low) : readYear low = readYear s := by
  ext n
  rw [readYear_eq_some_iff, readYear_eq_some_iff]
  constructor
  · rintro ⟨w, r, rfl, hw, hr⟩
    obtain ⟨s', rfl, hrest⟩ := h.of_digits_lower hw.digits
    exact ⟨w, s', rfl, hw, hrest.startsWord_eq ▸ hr⟩
  · rintro ⟨w, r, rfl, hw, hr⟩
    obtain ⟨low', rfl, hrest⟩ := h.of_digits hw.digits
    exact ⟨w, low', rfl, hw, hrest.startsWord_eq.trans hr⟩

/-! ## The first year -/

/-- The part of a word behind the last character that breaks it. -/
def behind (breaks : Char → Bool) : List Char → List Char
  | [] => []
  | c :: w => if (c :: w).any breaks then behind breaks w else c :: w

/-- The first year that begins where a word begins or is broken. -/
def yearFrom (breaks : Char → Bool) (inWord : Bool) (s : List Char) : Option Nat :=
  (scan (fun _ c => isWord c && !breaks c) (fun inWord t => if inWord then none else readYear t) inWord s).map (·.2)

theorem year_eq_yearFrom (s : List Char) : year? s = yearFrom (fun _ => false) false s := by
  unfold yearFrom
  simp only [Bool.not_false, Bool.and_true]
  rfl

section Breaking
variable {breaks : Char → Bool}

theorem yearFrom_cons (inWord : Bool) (c : Char) (s : List Char) :
    yearFrom breaks inWord (c :: s) =
      (if inWord then none else readYear (c :: s)).or (yearFrom breaks (isWord c && !breaks c) s) := by
  unfold yearFrom
  rw [scan]
  cases (if inWord then none else readYear (c :: s)) with
  | some n => rfl
  | none =>
    dsimp only
    rw [Option.map_map, Option.none_or]
    rfl

theorem behind_of_any {c : Char} {w : List Char} (h : (c :: w).any breaks = true) :
    behind breaks (c :: w) = behind breaks w := by
  rw [behind, if_pos h]

theorem behind_of_not_any {w : List Char} (h : w.any breaks = false) : behind breaks w = w := by
  cases w with
  | nil => rfl
  | cons c w => rw [behind, if_neg (Bool.eq_false_iff.mp h)]

/-- The first word and the words behind it. -/
theorem findSome_words {α : Type} {f : List Char → Option α} (hnil : f [] = none) (s : List Char) :
    (words s).findSome? f = (f (s.takeWhile isWord)).or ((words (s.dropWhile isWord)).findSome? f) := by
  cases hstart : startsWord s with
  | true =>
    obtain ⟨w, r, rfl, hat⟩ := exists_first_word hstart
    have hwords := hat.words_eq
    have hr : r.takeWhile isWord = [] ∧ r.dropWhile isWord = r := by
      cases r with
      | nil => exact ⟨rfl, rfl⟩
      | cons c r =>
        have hc : ¬ isWord c = true := Bool.eq_false_iff.mp hat.after
        exact ⟨List.takeWhile_cons_of_neg hc, List.dropWhile_cons_of_neg hc⟩
    rw [List.nil_append, words_nil, List.nil_append] at hwords
    rw [List.takeWhile_append_of_pos hat.all, List.dropWhile_append_of_pos hat.all, hr.1, hr.2, List.append_nil,
      hwords, List.findSome?_cons]
    cases f w <;> rfl
  | false =>
    cases s with
    | nil =>
      rw [List.takeWhile_nil, hnil, Option.none_or]
      rfl
    | cons c s =>
      have hc : ¬ isWord c = true := Bool.eq_false_iff.mp hstart
      rw [List.takeWhile_cons_of_neg hc, List.dropWhile_cons_of_neg hc, hnil, Option.none_or]

section
variable (hbreaks : ∀ c, breaks c = true → isDecimalDigit c = false)
include hbreaks

/-- A word that is broken is no year. -/
theorem readYear_of_any {w : List Char} (hw : ∀ c ∈ w, isWord c = true) (h : w.any breaks = true) :
    readYear w = none := by
  obtain ⟨c, hmem, hc⟩ := List.any_eq_true.mp h
  refine Option.eq_none_iff_forall_ne_some.mpr fun n hn => ?_
  have hdigit := ((readYear_word_iff hw).mp hn).digits c hmem
  rw [hbreaks c hc] at hdigit
  cases hdigit

/-- From inside a word, only a part of it behind a break counts. -/
theorem yearFrom_eq (s : List Char) :
    yearFrom breaks true s =
        ((if (s.takeWhile isWord).any breaks then readYear (behind breaks (s.takeWhile isWord)) else none).or
          ((words (s.dropWhile isWord)).findSome? fun w => readYear (behind breaks w))) ∧
      yearFrom breaks false s = (words s).findSome? fun w => readYear (behind breaks w) := by
  induction s with
  | nil => exact ⟨rfl, rfl⟩
  | cons c s ih =>
    have hwords := findSome_words (f := fun w => readYear (behind breaks w)) rfl
    rw [yearFrom_cons, yearFrom_cons, if_pos rfl, Option.none_or, if_neg Bool.false_ne_true,
      ← readYear_takeWhile (c :: s)]
    -- A word character either breaks the word that it stands in, so that a new one may begin, or goes on with it.
    by_cases hc : isWord c = true
    · rw [hwords (c :: s), List.takeWhile_cons_of_pos hc, List.dropWhile_cons_of_pos hc, hc, Bool.true_and]
      have hall : ∀ d ∈ c :: s.takeWhile isWord, isWord d = true :=
        List.forall_mem_cons.mpr ⟨hc, List.all_eq_true.mp List.all_takeWhile⟩
      have hrest : yearFrom breaks (!breaks c) s =
          (if (c :: s.takeWhile isWord).any breaks then
            readYear (behind breaks (c :: s.takeWhile isWord)) else none).or
            ((words (s.dropWhile isWord)).findSome? fun w => readYear (behind breaks w)) := by
        cases hbreak : breaks c with
        | true =>
          have hany : (c :: s.takeWhile isWord).any breaks = true := by rw [List.any_cons, hbreak, Bool.true_or]
          rw [Bool.not_true, ih.2, hwords s, if_pos hany, behind_of_any hany]
        | false =>
          have hany : (c :: s.takeWhile isWord).any breaks = (s.takeWhile isWord).any breaks := by
            rw [List.any_cons, hbreak, Bool.false_or]
          rw [Bool.not_false, ih.1, hany]
          cases h : (s.takeWhile isWord).any breaks with
          | true => rw [behind_of_any (hany.trans h)]
          | false => rfl
      refine ⟨hrest, ?_⟩
      rw [hrest]
      cases hany : (c :: s.takeWhile isWord).any breaks with
      | true => rw [readYear_of_any hbreaks hall hany, Option.none_or, if_pos rfl]
      | false => rw [behind_of_not_any hany, if_neg Bool.false_ne_true, Option.none_or]
    · have hnot : isWord c = false := Bool.eq_false_iff.mpr hc
      rw [List.takeWhile_cons_of_neg hc, List.dropWhile_cons_of_neg hc, hnot, Bool.false_and, ih.2,
        words_cons_of_not_isWord hnot]
      exact ⟨rfl, rfl⟩

end

end Breaking

/-- The year of a text is that of its first word which is a year. -/
theorem year_eq_findSome (s : List Char) : year? s = (words s).findSome? readYear := by
  have hbehind : ∀ w, behind (fun _ => false) w = w := fun w => behind_of_not_any (by rw [List.any_eq_false]; simp)
  rw [year_eq_yearFrom, (yearFrom_eq (fun _ h => absurd h Bool.false_ne_true) s).2]
  simp only [hbehind]

theorem isYear_of_year {s : List Char} {n : Nat} (h : year? s = some n) : ∃ w ∈ words s, IsYear w n := by
  rw [year_eq_findSome] at h
  obtain ⟨w, hmem, hw⟩ := List.exists_of_findSome?_eq_some h
  obtain ⟨a, b, -, hat⟩ := mem_words_iff.mp hmem
  exact ⟨w, hmem, (readYear_word_iff hat.all).mp hw⟩

/-- The number is the value of the first word that is a year. -/
def IsFirstYear (s : List Char) (n : Nat) : Prop :=
  ∃ before w after, words s = before ++ w :: after ∧ IsYear w n ∧ ∀ v ∈ before, ∀ m, ¬ IsYear v m

theorem readYear_iff_of_mem_words {s w : List Char} (hw : w ∈ words s) {n : Nat} :
    readYear w = some n ↔ IsYear w n := by
  obtain ⟨a, b, -, hat⟩ := mem_words_iff.mp hw
  exact readYear_word_iff hat.all

theorem year_eq_some_iff {s : List Char} {n : Nat} : year? s = some n ↔ IsFirstYear s n := by
  rw [year_eq_findSome, List.findSome?_eq_some_iff]
  constructor
  · rintro ⟨before, w, after, hwords, hw, hbefore⟩
    refine ⟨before, w, after, hwords, ?_, fun v hv m hm => ?_⟩
    · exact (readYear_iff_of_mem_words (hwords ▸ List.mem_append_right _ List.mem_cons_self)).mp hw
    · have hnone := hbefore v hv
      rw [(readYear_iff_of_mem_words (hwords ▸ List.mem_append_left _ hv)).mpr hm] at hnone
      cases hnone
  · rintro ⟨before, w, after, hwords, hw, hbefore⟩
    refine ⟨before, w, after, hwords, ?_, fun v hv => ?_⟩
    · exact (readYear_iff_of_mem_words (hwords ▸ List.mem_append_right _ List.mem_cons_self)).mpr hw
    · refine Option.eq_none_iff_forall_ne_some.mpr fun m hm => hbefore v hv m ?_
      exact (readYear_iff_of_mem_words (hwords ▸ List.mem_append_left _ hv)).mp hm

theorem IsFirstYear.bounds {s : List Char} {n : Nat} (h : IsFirstYear s n) : 1900 ≤ n ∧ n ≤ 2099 := by
  obtain ⟨before, w, after, -, hw, -⟩ := h
  exact hw.bounds

/-! ## Lower case -/

/-- The part of a word behind its last dotted capital I. -/
def behindDot : List Char → List Char := behind (· == dottedI)

theorem yearFrom_lowered {s low : List Char} (h : Lowered s low) (inWord : Bool) :
    yearFrom (fun _ => false) inWord low = yearFrom (· == dottedI) inWord s := by
  induction h generalizing inWord with
  | nil => rfl
  | @letter c d s low plain resembles rest ih =>
    have hplain : (c == dottedI) = false := beq_eq_false_iff_ne.mpr plain
    rw [yearFrom_cons, yearFrom_cons, readYear_lowered (.letter plain resembles rest), resembles.word, hplain, ih]
  | @dotted s low rest ih =>
    have hdigit : isDecimalDigit 'i' = false ∧ isDecimalDigit dottedI = false := by decide +kernel
    have hword : isWord 'i' = true ∧ isWord dotAbove = false := by decide +kernel
    rw [yearFrom_cons, yearFrom_cons, yearFrom_cons, readYear_of_not_isDecimalDigit hdigit.1,
      readYear_of_not_isDecimalDigit hdigit.2, hword.1, hword.2, ih, ite_self, beq_self_eq_true]
    simp

theorem not_isDecimalDigit_of_beq_dottedI (c : Char) (hc : (c == dottedI) = true) : isDecimalDigit c = false := by
  rw [eq_of_beq hc]
  decide +kernel

/-- The year that the lower case of a text names. -/
theorem year_lower (s : List Char) : year? (lower s) = (words s).findSome? fun w => readYear (behindDot w) := by
  rw [year_eq_yearFrom, yearFrom_lowered (lowered_lower s)]
  exact (yearFrom_eq not_isDecimalDigit_of_beq_dottedI s).2


/-- A word ends in a year behind a dotted capital I, no word before it ends in a year, and this year is not the one
that the text names. -/
def Misread (s : List Char) : Prop :=
  ∃ before w after n, words s = before ++ w :: after ∧ dottedI ∈ w ∧ IsYear (behindDot w) n ∧
    (∀ v ∈ before, ∀ m, ¬ IsYear (behindDot v) m) ∧ year? s ≠ some n

theorem behind_suffix (breaks : Char → Bool) (w : List Char) : behind breaks w <:+ w := by
  induction w with
  | nil => exact List.suffix_refl []
  | cons c w ih =>
    rw [behind]
    split
    · exact ih.trans (List.suffix_cons c w)
    · exact List.suffix_refl _

section Words
variable {s w : List Char} (hw : w ∈ words s)
include hw

theorem readYear_behindDot_iff {n : Nat} : readYear (behindDot w) = some n ↔ IsYear (behindDot w) n := by
  obtain ⟨a, b, -, hat⟩ := mem_words_iff.mp hw
  exact readYear_word_iff fun c hc => hat.all c ((behind_suffix _ w).subset hc)

theorem readYear_behindDot_eq_none_iff : readYear (behindDot w) = none ↔ ∀ n, ¬ IsYear (behindDot w) n := by
  rw [Option.eq_none_iff_forall_ne_some]
  exact forall_congr' fun n => not_congr (readYear_behindDot_iff hw)

/-- A word that is a year has no dotted capital I. -/
theorem readYear_eq_none_of_behindDot (h : readYear (behindDot w) = none) : readYear w = none := by
  obtain ⟨a, b, -, hat⟩ := mem_words_iff.mp hw
  cases hany : w.any (· == dottedI) with
  | true => exact readYear_of_any not_isDecimalDigit_of_beq_dottedI hat.all hany
  | false => exact behind_of_not_any hany ▸ h

end Words

theorem year_lower_ne_iff (s : List Char) : year? (lower s) ≠ year? s ↔ Misread s := by
  rw [year_lower]
  constructor
  · intro hne
    cases hlower : (words s).findSome? fun w => readYear (behindDot w) with
    | none =>
      have hnone := List.findSome?_eq_none_iff.mp hlower
      have hyear : year? s = none := by
        rw [year_eq_findSome, List.findSome?_eq_none_iff]
        exact fun w hw => readYear_eq_none_of_behindDot hw (hnone w hw)
      exact absurd (hlower.trans hyear.symm) hne
    | some n =>
      rw [hlower] at hne
      obtain ⟨before, w, after, hwords, hw, hbefore⟩ := List.findSome?_eq_some_iff.mp hlower
      have hmem : ∀ v ∈ before, v ∈ words s := fun v hv => hwords ▸ List.mem_append_left _ hv
      have hmem' : w ∈ words s := hwords ▸ List.mem_append_right _ List.mem_cons_self
      have hdot : dottedI ∈ w := by
        -- Without the dotted capital I the word would be the first year of the text as well.
        refine Decidable.not_not.mp fun hplain => hne ?_
        have hany : w.any (· == dottedI) = false := by
          rw [List.any_eq_false]
          exact fun c hc heq => hplain (eq_of_beq heq ▸ hc)
        have hyear : readYear w = some n := behind_of_not_any hany ▸ hw
        rw [year_eq_findSome, eq_comm, List.findSome?_eq_some_iff]
        exact ⟨before, w, after, hwords, hyear, fun v hv =>
          readYear_eq_none_of_behindDot (hmem v hv) (hbefore v hv)⟩
      exact ⟨before, w, after, n, hwords, hdot, (readYear_behindDot_iff hmem').mp hw,
        fun v hv => (readYear_behindDot_eq_none_iff (hmem v hv)).mp (hbefore v hv), hne.symm⟩
  · rintro ⟨before, w, after, n, hwords, -, hyear, hbefore, hne⟩
    have hmem : ∀ v ∈ before, v ∈ words s := fun v hv => hwords ▸ List.mem_append_left _ hv
    have hmem' : w ∈ words s := hwords ▸ List.mem_append_right _ List.mem_cons_self
    have hlower : (words s).findSome? (fun w => readYear (behindDot w)) = some n :=
      List.findSome?_eq_some_iff.mpr ⟨before, w, after, hwords, (readYear_behindDot_iff hmem').mpr hyear,
        fun v hv => (readYear_behindDot_eq_none_iff (hmem v hv)).mpr (hbefore v hv)⟩
    rw [hlower]
    exact hne.symm

end TenderQuery.Fallback
