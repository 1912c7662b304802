import Mathlib.Data.List.TakeWhile
import TenderQuery.Proofs.Sql.Stripping

/-!
# Fences

A fence is three backticks and a tag that ends its line (`Fence`). Such a fence, and the one that closes it, are
replaced by a space each, and nothing between them is lost (`dropFences_around`). What follows the closing fence loses
nothing either if it begins with a phrase that no tag can be read from (`afterFence_phrase`).
-/
set_option autoImplicit false
namespace TenderQuery.Sql
open TenderQuery.Text

def fenceMark : List Char := ['\x60', '\x60', '\x60']

def IsNewline (s : List Char) : Prop := s = ['\n'] ∨ s = ['\r', '\n']

/-- A code fence: the tag of its opening line, and the newlines that end this line and the last one of the text. -/
structure Fence where
  tag : List Char
  opening : List Char
  closing : List Char
  isTag : ∀ c ∈ tag, isTagChar c = true
  isOpening : IsNewline opening
  isClosing : IsNewline closing

/-- The text in the fence. -/
def Fence.around (fence : Fence) (s : List Char) : List Char :=
  fenceMark ++ (fence.tag ++ (fence.opening ++ (s ++ (fence.closing ++ fenceMark))))

theorem dropFences_mark (s : List Char) : dropFences (fenceMark ++ s) = ' ' :: dropFences (afterFence s) := by
  change dropFences ('\x60' :: '\x60' :: '\x60' :: s) = _
  rw [dropFences]

/-! ## Characters of a tag -/

theorem isTagChar_of_isWord {c : Char} (hc : isWord c = true) : isTagChar c = true := by
  simp [isTagChar, hc]

theorem not_isTagChar_of_isBlank {c : Char} (hc : isBlank c = true) : isTagChar c = false := by
  have hplus : c ≠ '+' := by
    rintro rfl
    exact absurd hc (by decide)
  have hpoint : c ≠ '.' := by
    rintro rfl
    exact absurd hc (by decide)
  have hdash : c ≠ '-' := by
    rintro rfl
    exact absurd hc (by decide)
  simp [isTagChar, isWord_of_isBlank hc, hplus, hpoint, hdash]

theorem isBlank_of_isInlineBlank {c : Char} (hc : isInlineBlank c = true) : isBlank c = true := by
  unfold isInlineBlank at hc
  rw [Bool.or_eq_true, beq_iff_eq, beq_iff_eq] at hc
  obtain rfl | rfl := hc
  · decide
  · decide

theorem not_isInlineBlank_of_not_isBlank {c : Char} (hc : isBlank c = false) : isInlineBlank c = false := by
  rw [← Bool.not_eq_true]
  intro hinline
  rw [isBlank_of_isInlineBlank hinline] at hc
  cases hc

/-- A text that begins with neither a letter nor a sign does not open with a word. -/
theorem not_opens_of_not_isWord {phrase : List Char} (hphrase : ∃ p r, phrase = p :: r ∧ p.isAlpha = true)
    {c : Char} (hc : isWord c = false) (s : List Char) : ¬ Opens phrase (c :: s) := by
  obtain ⟨p, r, rfl, hp⟩ := hphrase
  rintro ⟨piece, rest, heq, hfits⟩
  obtain ⟨d, t, rfl, hd, -⟩ := (fits_cons_iff p r piece).mp hfits
  cases heq
  rw [isWord_of_sameLetter hp hd] at hc
  cases hc

theorem oneOfWords_of_not_opens {patterns : List String} {s : List Char}
    (h : ∀ p ∈ patterns, ¬ Opens p.toList s) : oneOfWords patterns s = none := by
  unfold oneOfWords
  rw [List.findSome?_eq_none_iff]
  intro p hp
  unfold word
  rw [dropFold_eq_none_iff.mpr (h p hp)]
  rfl

theorem sqlTags_begin : ∀ tag ∈ sqlTags, ∃ p r, tag.toList = p :: r ∧ p.isAlpha = true := by
  have hfirst : ∀ tag ∈ sqlTags, (tag.toList.head?.any Char.isAlpha) = true := by decide
  intro tag htag
  have hhead := hfirst tag htag
  cases hlist : tag.toList with
  | nil => simp [hlist] at hhead
  | cons p r => exact ⟨p, r, rfl, by simpa [hlist] using hhead⟩

/-! ## Behind the mark -/

/-- No tag can be read from the beginning of the text. -/
structure IsTagless (s : List Char) : Prop where
  line : afterLineTag s = none
  dialect : afterSqlTag s = none

theorem IsTagless.afterFence_eq {s : List Char} (h : IsTagless s) : afterFence s = s := by
  unfold afterFence
  rw [h.line, h.dialect]
  rfl

theorem IsTagless.append_inline {s gap : List Char} (h : IsTagless s) (hgap : ∀ c ∈ gap, isInlineBlank c = true) :
    IsTagless (gap ++ s) := by
  have hdrop : (gap ++ s).dropWhile isInlineBlank = s.dropWhile isInlineBlank := List.dropWhile_append_of_pos hgap
  constructor
  · have hline := h.line
    unfold afterLineTag at hline ⊢
    rwa [hdrop]
  · have hdialect := h.dialect
    unfold afterSqlTag at hdialect ⊢
    rwa [hdrop]

/-- A character that stands in no tag and is no space or tab ends the search for one. -/
theorem isTagless_of_break {c : Char} (hinline : isInlineBlank c = false) (htag : isTagChar c = false)
    (s : List Char) : IsTagless (c :: s) := by
  constructor
  · simp [afterLineTag, hinline, htag]
  · have hword : isWord c = false := by
      rw [← Bool.not_eq_true]
      intro hword
      rw [isTagChar_of_isWord hword] at htag
      cases htag
    unfold afterSqlTag
    rw [List.dropWhile_cons_of_neg (by simp [hinline])]
    exact oneOfWords_of_not_opens fun tag hmem => not_opens_of_not_isWord (sqlTags_begin tag hmem) hword s

section Newline
variable {newline : List Char} (hnewline : IsNewline newline)
include hnewline

theorem exists_newline_eq_cons :
    ∃ c r, newline = c :: r ∧ isInlineBlank c = false ∧ isTagChar c = false ∧ startsLineEnd [c] = true := by
  obtain rfl | rfl := hnewline
  · exact ⟨'\n', [], rfl, by decide, by decide, by decide⟩
  · exact ⟨'\r', ['\n'], rfl, by decide, by decide, by decide⟩

theorem isBlanks_of_isNewline : IsBlanks newline := by
  obtain rfl | rfl := hnewline
  · simp only [IsBlanks, List.forall_mem_singleton]
    decide
  · simp only [IsBlanks, List.forall_mem_cons, List.not_mem_nil, false_implies, implies_true, and_true]
    decide

theorem afterFence_newline (s : List Char) : afterFence (newline ++ s) = newline ++ s := by
  obtain ⟨c, r, rfl, hinline, htag, -⟩ := exists_newline_eq_cons hnewline
  exact (isTagless_of_break hinline htag (r ++ s)).afterFence_eq

theorem afterFence_tag {tag : List Char} (htag : ∀ c ∈ tag, isTagChar c = true) (s : List Char) :
    afterFence (tag ++ (newline ++ s)) = newline ++ s := by
  cases tag with
  | nil => exact afterFence_newline hnewline s
  | cons d tag =>
    obtain ⟨c, r, rfl, hinline, hnot, hend⟩ := exists_newline_eq_cons hnewline
    change afterFence (d :: tag ++ c :: (r ++ s)) = c :: (r ++ s)
    have hd : isInlineBlank d = false := by
      rw [← Bool.not_eq_true]
      intro hblank
      have hd := htag d List.mem_cons_self
      rw [not_isTagChar_of_isBlank (isBlank_of_isInlineBlank hblank)] at hd
      cases hd
    have hstart : (d :: tag ++ c :: (r ++ s)).dropWhile isInlineBlank = d :: tag ++ c :: (r ++ s) :=
      List.dropWhile_cons_of_neg (by simp [hd])
    have htake : (d :: tag ++ c :: (r ++ s)).takeWhile isTagChar = d :: tag := by
      rw [List.takeWhile_append_of_pos htag, List.takeWhile_cons_of_neg (by simp [hnot]), List.append_nil]
    have hdrop : (d :: tag ++ c :: (r ++ s)).dropWhile isTagChar = c :: (r ++ s) := by
      rw [List.dropWhile_append_of_pos htag, List.dropWhile_cons_of_neg (by simp [hnot])]
    have hrest : (c :: (r ++ s)).dropWhile isInlineBlank = c :: (r ++ s) :=
      List.dropWhile_cons_of_neg (by simp [hinline])
    have hline : afterLineTag (d :: tag ++ c :: (r ++ s)) = some (c :: (r ++ s)) := by
      unfold afterLineTag
      simp only [hstart, htake, hdrop, hrest]
      exact if_pos hend
    unfold afterFence
    rw [hline]

end Newline

theorem backtick_not_mem_of_isBlanks {s : List Char} (h : IsBlanks s) : '\x60' ∉ s :=
  fun hmem => absurd (h _ hmem) (by decide)

/-- A space takes the place of each of the two fences. -/
theorem dropFences_around (fence : Fence) {s : List Char} (hs : '\x60' ∉ s) (rest : List Char) :
    dropFences (fence.around s ++ rest) =
      ' ' :: (fence.opening ++ (s ++ (fence.closing ++ ' ' :: dropFences (afterFence rest)))) := by
  have hopening := backtick_not_mem_of_isBlanks (isBlanks_of_isNewline fence.isOpening)
  have hclosing := backtick_not_mem_of_isBlanks (isBlanks_of_isNewline fence.isClosing)
  unfold Fence.around
  simp only [List.append_assoc]
  rw [dropFences_mark, afterFence_tag fence.isOpening fence.isTag, dropFences_append hopening, dropFences_append hs,
    dropFences_append hclosing, dropFences_mark]

/-! ## Behind the closing fence -/

theorem eq_nil_of_isBlanks_append {front back : List Char} (h : IsBlanks back)
    (hlast : ∀ c ∈ (front ++ back).getLast?, isBlank c = false) : back = [] := by
  obtain hnil | ⟨r, c, rfl⟩ := List.eq_nil_or_concat back
  · exact hnil
  · rw [List.concat_eq_append] at h hlast
    have hc := hlast c (by rw [← List.append_assoc, List.getLast?_concat]; rfl)
    rw [h c (List.mem_append_right r List.mem_cons_self)] at hc
    cases hc

theorem mem_of_fits {phrase piece : List Char} (h : Fits phrase piece) {p : Char} (hp : p ∈ phrase)
    (hcase : isCased p = false) : p ∈ piece := by
  induction phrase generalizing piece with
  | nil => cases hp
  | cons q phrase ih =>
    obtain ⟨c, r, rfl, hc, hr⟩ := (fits_cons_iff q phrase piece).mp h
    obtain rfl | hp := List.mem_cons.mp hp
    · exact (sameLetter_iff_eq hcase c).mp hc ▸ List.mem_cons_self
    · exact List.mem_cons_of_mem c (ih hr hp)

/-- What begins like the phrase is no tag: some mark of the phrase is in none, and no dialect is called so. -/
structure IsNoTag (phrase : List Char) : Prop where
  letters : IsPhrase phrase
  ends : IsUnpadded phrase
  lineEnds : '\r' ∉ phrase ∧ '\n' ∉ phrase
  mark : ∃ p ∈ phrase, isCased p = false ∧ isTagChar p = false
  dialect : ∀ tag ∈ sqlTags, meets tag.toList phrase = false

section Behind
variable {phrase piece : List Char} (hphrase : IsNoTag phrase) (hfits : Fits phrase piece)
include hphrase hfits

/-- Behind the letters and blanks that it begins with there is still a part of the phrase. -/
theorem exists_behind_tag :
    ∃ c r, (piece.dropWhile isTagChar).dropWhile isInlineBlank = c :: r ∧ c ∈ piece := by
  obtain ⟨p, hp, hcase, htag⟩ := hphrase.mark
  have hleft : (piece.dropWhile isTagChar).dropWhile isInlineBlank ≠ [] := by
    intro hnil
    have hblanks : IsBlanks (piece.dropWhile isTagChar) := fun c hc =>
      isBlank_of_isInlineBlank (List.dropWhile_eq_nil_iff.mp hnil c hc)
    have hback := (isUnpadded_of_fits hfits hphrase.letters hphrase.ends).back
    rw [← List.takeWhile_append_dropWhile (p := isTagChar) (l := piece)] at hback
    have hall := List.dropWhile_eq_nil_iff.mp (eq_nil_of_isBlanks_append hblanks hback) p (mem_of_fits hfits hp hcase)
    rw [htag] at hall
    cases hall
  obtain ⟨c, r, hrest⟩ := List.exists_cons_of_ne_nil hleft
  have hsuffix := (List.dropWhile_suffix isInlineBlank).trans (List.dropWhile_suffix (l := piece) isTagChar)
  rw [hrest] at hsuffix
  exact ⟨c, r, hrest, hsuffix.subset List.mem_cons_self⟩

theorem afterLineTag_phrase (s : List Char) : afterLineTag (piece ++ s) = none := by
  obtain ⟨c, r, hrest, hc⟩ := exists_behind_tag hphrase hfits
  have hstart : (piece ++ s).dropWhile isInlineBlank = piece ++ s := by
    obtain ⟨d, t, rfl⟩ := List.exists_cons_of_ne_nil (List.ne_nil_of_mem hc)
    have hfront := (isUnpadded_of_fits hfits hphrase.letters hphrase.ends).front d rfl
    exact List.dropWhile_cons_of_neg (by simp [not_isInlineBlank_of_not_isBlank hfront])
  have hdrop : ((piece ++ s).dropWhile isTagChar).dropWhile isInlineBlank = c :: r ++ s := by
    rw [List.dropWhile_append, if_neg, List.dropWhile_append, hrest, if_neg (by simp)]
    intro hempty
    rw [List.isEmpty_iff.mp hempty] at hrest
    cases hrest
  have hend : startsLineEnd (c :: r ++ s) = false := by
    have hreturn : c ≠ '\r' := fun heq =>
      not_mem_of_fits hfits hphrase.letters (by decide) hphrase.lineEnds.1 (heq ▸ hc)
    have hfeed : c ≠ '\n' := fun heq =>
      not_mem_of_fits hfits hphrase.letters (by decide) hphrase.lineEnds.2 (heq ▸ hc)
    simp [startsLineEnd, hreturn, hfeed]
  unfold afterLineTag
  simp only [hstart, hdrop, hend]
  simp

theorem isTagless_phrase (s : List Char) : IsTagless (piece ++ s) := by
  refine ⟨afterLineTag_phrase hphrase hfits s, ?_⟩
  have hends := isUnpadded_of_fits hfits hphrase.letters hphrase.ends
  obtain ⟨p, hp, hcase, -⟩ := hphrase.mark
  obtain ⟨d, t, rfl⟩ := List.exists_cons_of_ne_nil (List.ne_nil_of_mem (mem_of_fits hfits hp hcase))
  have hd : isInlineBlank d = false := not_isInlineBlank_of_not_isBlank (hends.front d rfl)
  unfold afterSqlTag
  rw [List.cons_append, List.dropWhile_cons_of_neg (by simp [hd])]
  apply oneOfWords_of_not_opens
  rintro tag hmem ⟨found, rest, heq, hfound⟩
  have hmeets := meets_of_fits hfound hfits heq.symm
  rw [hphrase.dialect tag hmem] at hmeets
  cases hmeets

/-- A closing fence takes nothing of an explanation with it, however far behind it stands. -/
theorem afterFence_phrase {gap : List Char} (hgap : IsBlanks gap) (s : List Char) :
    afterFence (gap ++ (piece ++ s)) = gap ++ (piece ++ s) := by
  have hsplit : gap = gap.takeWhile isInlineBlank ++ gap.dropWhile isInlineBlank :=
    List.takeWhile_append_dropWhile.symm
  have hinline : ∀ c ∈ gap.takeWhile isInlineBlank, isInlineBlank c = true := List.all_eq_true.mp List.all_takeWhile
  apply IsTagless.afterFence_eq
  cases hrest : gap.dropWhile isInlineBlank with
  | nil =>
    rw [hrest, List.append_nil] at hsplit
    rw [hsplit]
    exact (isTagless_phrase hphrase hfits s).append_inline hinline
  | cons c r =>
    have hc : isInlineBlank c = false := by
      have hhead := List.head?_dropWhile_not isInlineBlank gap
      rw [hrest] at hhead
      exact hhead
    have hblank : isBlank c = true := by
      apply hgap
      rw [hsplit, hrest]
      simp
    rw [hsplit, hrest, List.append_assoc]
    exact (isTagless_of_break hc (not_isTagChar_of_isBlank hblank) _).append_inline hinline

end Behind

end TenderQuery.Sql
