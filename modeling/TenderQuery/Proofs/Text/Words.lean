import TenderQuery.Proofs.Text.Letters
import TenderQuery.Text.Scan

/-!
# The words of a text

`words` lists the maximal runs of word characters of a text. A keyword occurs in a text as a whole word
exactly if it fits one of the words (`occurs_word_iff`), and the words of a text that is cut where no word
goes on are those of its parts (`words_append`), so an insertion between words is judged by the words that
it brings.
-/
set_option autoImplicit false
namespace TenderQuery.Text

/-! ## Words -/

/-- The maximal runs of word characters, in order. -/
def words : List Char → List (List Char)
  | [] => []
  | c :: r =>
    if isWord c then
      if startsWord r then (words r).modifyHead (c :: ·) else [c] :: words r
    else words r

def endsWord (s : List Char) : Bool := s.getLast?.any isWord

@[simp] theorem words_nil : words [] = [] := rfl

theorem words_cons_of_not_isWord {c : Char} (h : isWord c = false) (s : List Char) :
    words (c :: s) = words s := by
  simp only [words, h, Bool.false_eq_true, if_false]

theorem words_cons_of_startsWord {c : Char} {s : List Char} (h : isWord c = true)
    (hs : startsWord s = true) :
    words (c :: s) = (words s).modifyHead (c :: ·) := by
  simp only [words, h, hs, if_true]

theorem words_cons_of_alone {c : Char} {s : List Char} (h : isWord c = true) (hs : startsWord s = false) :
    words (c :: s) = [c] :: words s := by
  simp only [words, h, hs, if_true, Bool.false_eq_true, if_false]

theorem words_ne_nil_of_startsWord {s : List Char} (h : startsWord s = true) : words s ≠ [] := by
  induction s with
  | nil => cases h
  | cons c r ih =>
    by_cases hr : startsWord r = true
    · rw [words_cons_of_startsWord h hr]
      obtain ⟨w, rest, hw⟩ := List.exists_cons_of_ne_nil (ih hr)
      rw [hw]
      exact List.cons_ne_nil _ _
    · rw [words_cons_of_alone h (Bool.not_eq_true _ ▸ hr)]
      exact List.cons_ne_nil _ _

@[simp] theorem endsWord_nil : endsWord [] = false := rfl

@[simp] theorem endsWord_concat (s : List Char) (c : Char) : endsWord (s ++ [c]) = isWord c := by
  unfold endsWord
  rw [List.getLast?_concat]
  rfl

theorem endsWord_append {a b : List Char} (h : b ≠ []) : endsWord (a ++ b) = endsWord b := by
  unfold endsWord
  rw [List.getLast?_append, List.getLast?_eq_some_getLast h, Option.some_or]

theorem startsWord_append {a b : List Char} (h : a ≠ []) : startsWord (a ++ b) = startsWord a := by
  cases a with
  | nil => exact absurd rfl h
  | cons c r => rfl

theorem endsWord_of_append {a b : List Char} (h : endsWord (a ++ b) = false) : endsWord b = false := by
  cases b with
  | nil => rfl
  | cons c r =>
    rw [endsWord_append (List.cons_ne_nil c r)] at h
    exact h

theorem startsWord_of_append {a b : List Char} (h : startsWord (a ++ b) = false) : startsWord a = false := by
  cases a with
  | nil => rfl
  | cons c r => exact h

/-- A cut where no word goes on cuts no word. -/
theorem words_append {a b : List Char} (h : endsWord a = true → startsWord b = false) :
    words (a ++ b) = words a ++ words b := by
  induction a with
  | nil => rfl
  | cons c r ih =>
    have hr : words (r ++ b) = words r ++ words b := by
      refine ih fun hend => h ?_
      cases r with
      | nil => cases hend
      | cons d t => exact hend
    rw [List.cons_append]
    by_cases hc : isWord c = true
    · by_cases hstart : startsWord r = true
      · have hne : r ≠ [] := by
          rintro rfl
          cases hstart
        have hstart' : startsWord (r ++ b) = true := (startsWord_append hne).trans hstart
        obtain ⟨w, rest, hw⟩ := List.exists_cons_of_ne_nil (words_ne_nil_of_startsWord hstart)
        rw [words_cons_of_startsWord hc hstart', words_cons_of_startsWord hc hstart, hr, hw]
        rfl
      · rw [Bool.not_eq_true] at hstart
        have hstart' : startsWord (r ++ b) = false := by
          cases r with
          | nil => exact h hc
          | cons d t => exact hstart
        rw [words_cons_of_alone hc hstart', words_cons_of_alone hc hstart, hr]
        rfl
    · rw [Bool.not_eq_true] at hc
      rw [words_cons_of_not_isWord hc, words_cons_of_not_isWord hc, hr]

theorem words_of_all {w : List Char} (hne : w ≠ []) (h : ∀ c ∈ w, isWord c = true) : words w = [w] := by
  induction w with
  | nil => exact absurd rfl hne
  | cons c r ih =>
    have hc := h c List.mem_cons_self
    cases r with
    | nil => exact words_cons_of_alone hc rfl
    | cons d t =>
      have hrest := ih (List.cons_ne_nil d t) fun x hx => h x (List.mem_cons_of_mem _ hx)
      have hd : startsWord (d :: t) = true := h d (List.mem_cons_of_mem _ List.mem_cons_self)
      rw [words_cons_of_startsWord hc hd, hrest]
      rfl

theorem words_eq_nil {s : List Char} (h : ∀ c ∈ s, isWord c = false) : words s = [] := by
  induction s with
  | nil => rfl
  | cons c r ih =>
    rw [words_cons_of_not_isWord (h c List.mem_cons_self)]
    exact ih fun x hx => h x (List.mem_cons_of_mem _ hx)

theorem startsWord_dropWhile (s : List Char) : startsWord (s.dropWhile isWord) = false := by
  induction s with
  | nil => rfl
  | cons c r ih =>
    by_cases hc : isWord c = true
    · rw [List.dropWhile_cons_of_pos hc]
      exact ih
    · rw [List.dropWhile_cons_of_neg hc]
      exact Bool.not_eq_true _ ▸ hc

/-- A place of a text where a word stands alone. -/
structure IsWordAt (a w b : List Char) : Prop where
  ne_nil : w ≠ []
  all : ∀ c ∈ w, isWord c = true
  before : endsWord a = false
  after : startsWord b = false

theorem IsWordAt.words_eq {a w b : List Char} (h : IsWordAt a w b) :
    words (a ++ w ++ b) = words a ++ w :: words b := by
  have hb : endsWord (a ++ w) = true → startsWord b = false := fun _ => h.after
  have ha : endsWord a = true → startsWord w = false := fun hend => absurd hend (by simp [h.before])
  rw [words_append hb, words_append ha, words_of_all h.ne_nil h.all, List.append_assoc]
  rfl

theorem IsWordAt.getLast?_words {a w b : List Char} (h : IsWordAt a w b) (hb : words b = []) :
    (words (a ++ (w ++ b))).getLast? = some w := by
  rw [← List.append_assoc, h.words_eq, hb, List.getLast?_concat]

theorem IsWordAt.head?_words {a w b : List Char} (h : IsWordAt a w b) (ha : words a = []) :
    (words (a ++ (w ++ b))).head? = some w := by
  rw [← List.append_assoc, h.words_eq, ha, List.nil_append, List.head?_cons]

/-- A word is on one side of a cut between words. -/
theorem eq_nil_or_eq_nil_of_cut {a u v b : List Char} (hall : ∀ c ∈ u ++ v, isWord c = true)
    (hcut : endsWord (a ++ u) = true → startsWord (v ++ b) = false) : u = [] ∨ v = [] := by
  obtain rfl | ⟨u, c, rfl⟩ := List.eq_nil_or_concat u
  · exact .inl rfl
  · cases v with
    | nil => exact .inr rfl
    | cons d v =>
      rw [List.concat_eq_append] at hall hcut
      rw [← List.append_assoc, endsWord_concat] at hcut
      have hstart := hcut (hall c (by simp))
      rw [List.cons_append, startsWord, hall d (by simp)] at hstart
      cases hstart

theorem exists_first_word {s : List Char} (h : startsWord s = true) :
    ∃ w rest, s = w ++ rest ∧ IsWordAt [] w rest := by
  refine ⟨s.takeWhile isWord, s.dropWhile isWord, List.takeWhile_append_dropWhile.symm, ?_, ?_, rfl,
    startsWord_dropWhile s⟩
  · cases s with
    | nil => cases h
    | cons c r =>
      have hc : isWord c = true := h
      rw [List.takeWhile_cons_of_pos hc]
      exact List.cons_ne_nil _ _
  · exact List.all_eq_true.mp List.all_takeWhile

/-- The words of a text are what stands alone in it. -/
theorem mem_words_iff {w s : List Char} : w ∈ words s ↔ ∃ a b, s = a ++ w ++ b ∧ IsWordAt a w b := by
  constructor
  · intro hw
    -- Word by word: a text either begins with a character outside words or with a whole word.
    induction hn : s.length using Nat.strongRecOn generalizing s with
    | ind n ih =>
      cases hstart : startsWord s with
      | true =>
        obtain ⟨first, rest, rfl, hfirst⟩ := exists_first_word hstart
        have hwords : words (first ++ rest) = first :: words rest := hfirst.words_eq
        rw [hwords, List.mem_cons] at hw
        obtain rfl | hw := hw
        · exact ⟨[], rest, rfl, hfirst⟩
        · have hpos := List.length_pos_iff.mpr hfirst.ne_nil
          rw [List.length_append] at hn
          obtain ⟨a, b, rfl, hat⟩ := ih rest.length (by omega) hw rfl
          refine ⟨first ++ a, b, by simp only [List.append_assoc], hat.ne_nil, hat.all, ?_, hat.after⟩
          cases a with
          | nil =>
            obtain ⟨d, t, rfl⟩ := List.exists_cons_of_ne_nil hat.ne_nil
            have hd : isWord d = true := hat.all d List.mem_cons_self
            exact absurd hd (Bool.eq_false_iff.mp hfirst.after)
          | cons d t =>
            rw [endsWord_append (List.cons_ne_nil d t)]
            exact hat.before
      | false =>
        cases s with
        | nil => cases hw
        | cons c r =>
          rw [words_cons_of_not_isWord hstart] at hw
          obtain ⟨a, b, rfl, hat⟩ := ih r.length (by rw [← hn]; exact Nat.lt_succ_self _) hw rfl
          refine ⟨c :: a, b, rfl, hat.ne_nil, hat.all, ?_, hat.after⟩
          cases a with
          | nil => exact hstart
          | cons d t => exact hat.before
  · rintro ⟨a, b, rfl, hat⟩
    rw [hat.words_eq]
    exact List.mem_append_right _ List.mem_cons_self

end TenderQuery.Text
