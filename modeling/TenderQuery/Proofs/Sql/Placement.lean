import Mathlib.Order.Bounds.Defs
import TenderQuery.Proofs.Sql.Filter
import TenderQuery.Proofs.Sql.Parity

/-!
# The place of the filter

A statement without a filter gets it behind its first WHERE, else in front of the first clause that ends its row
source, else at its end (`toList_inject_of_absent`). `EndsSource s p` says what such a clause is, by counting only: at
the place `p` a trailing clause begins in whole words, no parenthesis is open there, and the quoted parts of the text
are blanked first. So no clause within parentheses or quotes is one.
-/
set_option autoImplicit false
namespace TenderQuery.Sql
open TenderQuery.Text

/-! ## Clauses -/

/-- A clause that can follow the row source opens the text, in whole words. -/
inductive OpensClause : List Char → Prop where
  | word {keyword : String} {piece rest : List Char}
      (hkeyword : keyword ∈ ["HAVING", "LIMIT", "UNION", "EXCEPT", "INTERSECT"]) (hpiece : Spells keyword piece)
      (hrest : startsWord rest = false) : OpensClause (piece ++ rest)
  | pair {first : String} {x gap y rest : List Char} (hfirst : first ∈ ["GROUP", "ORDER"]) (hx : Spells first x)
      (hne : gap ≠ []) (hgap : IsBlanks gap) (hy : Spells "BY" y) (hrest : startsWord rest = false) :
      OpensClause (x ++ (gap ++ (y ++ rest)))
  | option {x gap rest : List Char} (hx : Spells "OPTION" x) (hgap : IsBlanks gap) :
      OpensClause (x ++ (gap ++ '(' :: rest))

theorem wordPair_isSome_iff {first second : String} (hfirst : IsCapitals first) (hsecond : IsCapitals second)
    (s : List Char) : (wordPair first second s).isSome = true ↔
      ∃ x gap y rest, s = x ++ (gap ++ (y ++ rest)) ∧ Spells first x ∧ gap ≠ [] ∧ IsBlanks gap ∧
        Spells second y ∧ startsWord rest = false := by
  rw [Option.isSome_iff_exists]
  constructor
  · rintro ⟨rest, h⟩
    obtain ⟨x, gap, y, heq, hx, hne, hgap, hy, hrest⟩ := wordPair_eq_some h
    exact ⟨x, gap, y, rest, heq, (fits_iff_spells hfirst x).mp hx, hne, hgap,
      (fits_iff_spells hsecond y).mp hy, hrest⟩
  · rintro ⟨x, gap, y, rest, rfl, hx, hne, hgap, hy, hrest⟩
    exact ⟨rest, wordPair_append ((fits_iff_spells hfirst x).mpr hx) hne hgap hsecond.isKeyword
      ((fits_iff_spells hsecond y).mpr hy) hrest⟩

/-- What follows a parenthesis that opens behind blanks. -/
def behindOpening : Matcher := fun s =>
  match trimStart s with
  | '(' :: r => some r
  | _ => none

theorem behindOpening_eq_some_iff {s rest : List Char} :
    behindOpening s = some rest ↔ ∃ gap, s = gap ++ '(' :: rest ∧ IsBlanks gap := by
  constructor
  · intro h
    obtain ⟨gap, hgap, heq⟩ := exists_front s
    unfold behindOpening at h
    split at h
    · rename_i r hstart
      cases h
      exact ⟨gap, hstart ▸ heq, hgap⟩
    · cases h
  · rintro ⟨gap, rfl, hgap⟩
    have hstart : trimStart (gap ++ '(' :: rest) = '(' :: rest :=
      (trimStart_append_blanks hgap _).trans (trimStart_cons_of_not_isBlank (by decide) rest)
    unfold behindOpening
    rw [hstart]
    rfl

theorem isCapitals_option : IsCapitals "OPTION" := by decide

theorem option_isSome_iff (s : List Char) : ((dropFold "OPTION".toList s).bind behindOpening).isSome = true ↔
    ∃ x gap rest, s = x ++ (gap ++ '(' :: rest) ∧ Spells "OPTION" x ∧ IsBlanks gap := by
  simp only [Option.isSome_iff_exists, Option.bind_eq_some_iff, dropFold_eq_some_iff, behindOpening_eq_some_iff,
    fits_iff_spells isCapitals_option]
  constructor
  · rintro ⟨rest, t, ⟨x, rfl, hx⟩, gap, rfl, hgap⟩
    exact ⟨x, gap, rest, rfl, hx, hgap⟩
  · rintro ⟨x, gap, rest, rfl, hx, hgap⟩
    exact ⟨rest, _, ⟨x, rfl, hx⟩, gap, rfl, hgap⟩

theorem orElse_isSome_iff (x y : Option (List Char)) :
    (x <|> y).isSome = true ↔ x.isSome = true ∨ y.isSome = true := by
  cases x <;> simp

theorem trailingClause_isSome_iff (s : List Char) : (trailingClause s).isSome = true ↔ OpensClause s := by
  have hcapitals : ∀ keyword ∈ ["HAVING", "LIMIT", "UNION", "EXCEPT", "INTERSECT"], IsCapitals keyword := by decide
  have heq : trailingClause s = (oneOfWords ["HAVING", "LIMIT", "UNION", "EXCEPT", "INTERSECT"] s
      <|> wordPair "GROUP" "BY" s <|> wordPair "ORDER" "BY" s
      <|> (dropFold "OPTION".toList s).bind behindOpening) := rfl
  rw [heq, orElse_isSome_iff, orElse_isSome_iff, orElse_isSome_iff, oneOfWords_isSome_iff,
    wordPair_isSome_iff (by decide) (by decide), wordPair_isSome_iff (by decide) (by decide), option_isSome_iff]
  constructor
  · rintro (⟨keyword, hkeyword, hword⟩ | ⟨x, gap, y, rest, rfl, hx, hne, hgap, hy, hrest⟩ |
      ⟨x, gap, y, rest, rfl, hx, hne, hgap, hy, hrest⟩ | ⟨x, gap, rest, rfl, hx, hgap⟩)
    · obtain ⟨piece, rest, rfl, hpiece, hrest⟩ := (word_isSome_iff_spells (hcapitals keyword hkeyword) s).mp hword
      exact .word hkeyword hpiece hrest
    · exact .pair (by decide) hx hne hgap hy hrest
    · exact .pair (by decide) hx hne hgap hy hrest
    · exact .option hx hgap
  · rintro (⟨hkeyword, hpiece, hrest⟩ | ⟨hfirst, hx, hne, hgap, hy, hrest⟩ | ⟨hx, hgap⟩)
    · refine .inl ⟨_, hkeyword, ?_⟩
      exact (word_isSome_iff_spells (hcapitals _ hkeyword) _).mpr ⟨_, _, rfl, hpiece, hrest⟩
    · simp only [List.mem_cons, List.not_mem_nil, or_false] at hfirst
      obtain rfl | rfl := hfirst
      · exact .inr (.inl ⟨_, _, _, _, rfl, hx, hne, hgap, hy, hrest⟩)
      · exact .inr (.inr (.inl ⟨_, _, _, _, rfl, hx, hne, hgap, hy, hrest⟩))
    · exact .inr (.inr (.inr ⟨_, _, _, rfl, hx, hgap⟩))

/-! ## Places outside parentheses -/

/-- The parentheses that are open behind a text; a closing one that has nothing to close is passed over. -/
def openParentheses (s : List Char) : Nat :=
  s.foldl (fun depth c => if c = '(' then depth + 1 else if c = ')' then depth - 1 else depth) 0

theorem depth_foldl_position (s : List Char) :
    (s.foldl Position.next ⟨false, 0⟩).depth = openParentheses s :=
  (List.foldl_hom Position.depth (fun _ _ => rfl)).symm

section Search
variable {α : Type} {p : List Char → Option α} {s before : List Char} {x : α}

theorem topLevel_isSome_iff (a b : List Char) :
    (if (a.foldl Position.next ⟨false, 0⟩).afterWord || (a.foldl Position.next ⟨false, 0⟩).depth != 0 then none
      else p b).isSome = true ↔ endsWord a = false ∧ openParentheses a = 0 ∧ (p b).isSome = true := by
  rw [foldl_position, depth_foldl_position]
  cases endsWord a with
  | true => simp
  | false => by_cases h : openParentheses a = 0 <;> simp [h]

theorem searchTopLevel_isSome_iff : (searchTopLevel p s).isSome = true ↔
    ∃ a b, s = a ++ b ∧ endsWord a = false ∧ openParentheses a = 0 ∧ (p b).isSome = true := by
  unfold searchTopLevel
  rw [scan_isSome_iff]
  simp only [topLevel_isSome_iff]

theorem length_le_of_searchTopLevel (h : searchTopLevel p s = some (before, x)) {a b : List Char} (hs : s = a ++ b)
    (ha : endsWord a = false) (hopen : openParentheses a = 0) (hb : (p b).isSome = true) :
    before.length ≤ a.length :=
  length_le_of_scan_eq_some h hs ((topLevel_isSome_iff a b).mpr ⟨ha, hopen, hb⟩)

theorem place_of_searchTopLevel (h : searchTopLevel p s = some (before, x)) :
    ∃ after, s = before ++ after ∧ endsWord before = false ∧ openParentheses before = 0 ∧
      (p after).isSome = true := by
  obtain ⟨after, heq, hafter⟩ := scan_eq_some h
  exact ⟨after, heq, (topLevel_isSome_iff before after).mp (Option.isSome_iff_exists.mpr ⟨x, hafter⟩)⟩

end Search

/-! ## The end of the row source -/

/-- With its quoted parts blanked, the text has a clause at the place that can follow the row source, outside
parentheses. -/
structure EndsSource (s : List Char) (p : Nat) : Prop where
  cut : endsWord ((maskByParity 0 s).take p) = false
  outside : openParentheses ((maskByParity 0 s).take p) = 0
  opens : OpensClause ((maskByParity 0 s).drop p)

theorem OpensClause.startsWord {s : List Char} (h : OpensClause s) : Text.startsWord s = true := by
  have hwords : ∀ keyword ∈ ["HAVING", "LIMIT", "UNION", "EXCEPT", "INTERSECT"], IsCapitals keyword := by decide
  have hfirsts : ∀ first ∈ ["GROUP", "ORDER"], IsCapitals first := by decide
  cases h with
  | word hkeyword hpiece _ => exact (hwords _ hkeyword).startsWord hpiece _
  | pair hfirst hx _ _ _ _ => exact (hfirsts _ hfirst).startsWord hx _
  | option hx _ => exact isCapitals_option.startsWord hx _

theorem OpensClause.ne_nil {s : List Char} (h : OpensClause s) : s ≠ [] := by
  rintro rfl
  cases h.startsWord

theorem startsWord_maskByParity_of_odd {quotes : Nat} (h : quotes % 2 = 1) (s : List Char) :
    startsWord (maskByParity quotes s) = false := by
  have hspace : isWord ' ' = false := by decide
  cases s with
  | nil => rfl
  | cons c r =>
    by_cases hc : c = '\''
    · subst hc
      rw [maskByParity_quote]
      exact hspace
    · rw [maskByParity_cons_of_ne hc, if_pos h]
      exact hspace

/-- A clause that ends the row source is not quoted. -/
theorem EndsSource.count_even {s : List Char} {p : Nat} (h : EndsSource s p) : (s.take p).count '\'' % 2 = 0 := by
  have hstart := h.opens.startsWord
  rw [drop_maskByParity, Nat.zero_add] at hstart
  by_contra hodd
  rw [startsWord_maskByParity_of_odd (by omega)] at hstart
  cases hstart

theorem endsSource_of_split {s a b : List Char} (h : maskByParity 0 s = a ++ b) (ha : endsWord a = false)
    (hopen : openParentheses a = 0) (hb : (trailingClause b).isSome = true) : EndsSource s a.length := by
  refine ⟨?_, ?_, ?_⟩
  · rw [h, List.take_left]
    exact ha
  · rw [h, List.take_left]
    exact hopen
  · rw [h, List.drop_left]
    exact (trailingClause_isSome_iff b).mp hb

/-- The search for a trailing clause finds the first one that ends the row source. -/
theorem isLeast_of_searchTopLevel {s front rest : List Char}
    (h : searchTopLevel trailingClause (maskByParity 0 s) = some (front, rest)) :
    IsLeast {p | EndsSource s p} front.length := by
  obtain ⟨after, heq, hcut, hopen, hclause⟩ := place_of_searchTopLevel h
  refine ⟨endsSource_of_split heq hcut hopen hclause, fun p hp => ?_⟩
  have hplace : p ≤ (maskByParity 0 s).length := by
    have hlength := List.length_pos_iff.mpr hp.opens.ne_nil
    rw [List.length_drop] at hlength
    omega
  calc front.length ≤ ((maskByParity 0 s).take p).length :=
        length_le_of_searchTopLevel h (List.take_append_drop p _).symm hp.cut hp.outside
          ((trailingClause_isSome_iff _).mpr hp.opens)
    _ = p := List.length_take_of_le hplace

theorem not_endsSource_of_searchTopLevel {s : List Char}
    (h : searchTopLevel trailingClause (maskByParity 0 s) = none) (p : Nat) : ¬ EndsSource s p := by
  intro hp
  have hsome := searchTopLevel_isSome_iff.mpr ⟨_, _, (List.take_append_drop p (maskByParity 0 s)).symm, hp.cut,
    hp.outside, (trailingClause_isSome_iff _).mpr hp.opens⟩
  rw [h] at hsome
  cases hsome

/-! ## The place of an insertion -/

/-- The keyword stands in the text as a whole word, and nowhere earlier. -/
structure IsFirstWord (keyword : String) (s front w rest : List Char) : Prop where
  text : s = front ++ w ++ rest
  place : IsWordAt front w rest
  spelled : Spells keyword w
  first : ∀ a v b, s = a ++ v ++ b → IsWordAt a v b → Spells keyword v → front.length ≤ a.length

theorem isCapitals_where : IsCapitals "WHERE" := by decide

theorem holdsKeyword_where_iff (s : List Char) :
    HoldsKeyword "WHERE" s ↔ (search (word "WHERE") s).isSome = true :=
  (occurs_word_iff_spells isCapitals_where s).symm

/-- Behind the first WHERE. -/
theorem slot_of_where {s : List Char} (h : HoldsKeyword "WHERE" s) :
    ∃ front w rest, IsFirstWord "WHERE" s front w rest ∧ Slot.of s = .behindWhere (front ++ w) rest := by
  rw [holdsKeyword_where_iff, Option.isSome_iff_exists] at h
  obtain ⟨⟨front, rest⟩, hsearch⟩ := h
  obtain ⟨w, heq, hfits, hat, hslot⟩ := slot_of_search_where hsearch
  refine ⟨front, w, rest, ⟨?_, hat, (fits_iff_spells isCapitals_where w).mp hfits, ?_⟩, hslot⟩
  · rw [heq, List.append_assoc]
  · intro a v b hs hv hspells
    refine length_le_of_scan_eq_some hsearch (hs.trans (List.append_assoc _ _ _)) ?_
    rw [foldl_isWord, hv.before, if_neg Bool.false_ne_true, word_isSome_iff_spells isCapitals_where]
    exact ⟨v, b, rfl, hspells, hv.after⟩

/-- Else in front of the first clause that ends the row source, or at the end. -/
theorem slot_of_absent {s : List Char} (h : ¬ HoldsKeyword "WHERE" s) (heven : s.count '\'' % 2 = 0) :
    (∃ p, IsLeast {p | EndsSource s p} p ∧ Slot.of s = .beforeClause (trimEnd (s.take p)) (s.drop p)) ∨
      ((∀ p, ¬ EndsSource s p) ∧ Slot.of s = .atEnd (trimEnd s)) := by
  rw [holdsKeyword_where_iff, Option.not_isSome_iff_eq_none] at h
  unfold Slot.of
  rw [maskLiterals_eq_maskByParity heven]
  cases hclause : searchTopLevel trailingClause (maskByParity 0 s) with
  | some found =>
    refine .inl ⟨found.1.length, isLeast_of_searchTopLevel hclause, ?_⟩
    simp only [h]
  | none =>
    refine .inr ⟨not_endsSource_of_searchTopLevel hclause, ?_⟩
    simp only [h]

/-- A statement without a filter keeps its text up to blanks at one place, where the filter is added: behind the first
WHERE with AND; without a WHERE in front of the first clause that ends the row source, which is then neither quoted
nor within parentheses; and at the end if there is no such clause. -/
theorem toList_inject_of_absent (policy : SoftDelete) {sql : String} (habsent : policy.isPresent sql = false) :
    (∃ before gap after x y, IsBlanks gap ∧ sql.toList = before ++ (gap ++ after) ∧
      (policy.inject sql).toList = before ++ (x ++ (policy.filterFor sql.toList ++ y) ++ after)) ∧
    (HoldsKeyword "WHERE" sql.toList → ∃ front w rest, IsFirstWord "WHERE" sql.toList front w rest ∧
      (policy.inject sql).toList =
        front ++ w ++ ' ' :: policy.filterFor sql.toList ++ " AND".toList ++ rest) ∧
    (¬ HoldsKeyword "WHERE" sql.toList → sql.toList.count '\'' % 2 = 0 →
      (∃ p, IsLeast {p | EndsSource sql.toList p} p ∧ (sql.toList.take p).count '\'' % 2 = 0 ∧
        (policy.inject sql).toList = trimEnd (sql.toList.take p) ++ " WHERE ".toList ++
          policy.filterFor sql.toList ++ ' ' :: sql.toList.drop p) ∨
      ((∀ p, ¬ EndsSource sql.toList p) ∧
        (policy.inject sql).toList = trimEnd sql.toList ++ " WHERE ".toList ++ policy.filterFor sql.toList)) := by
  have hinject : (policy.inject sql).toList = (Slot.of sql.toList).fill (policy.filterFor sql.toList) := by
    unfold SoftDelete.inject
    rw [habsent, if_neg Bool.false_ne_true, String.toList_ofList]
  rw [hinject]
  refine ⟨?_, fun hwhere => ?_, fun hwhere heven => ?_⟩
  · obtain ⟨gap, hgap, htext, -⟩ := (splits_of sql.toList).text
    obtain ⟨x, y, hinserted⟩ := exists_inserted (Slot.of sql.toList) (policy.filterFor sql.toList)
    refine ⟨_, gap, _, x, y, hgap, htext, ?_⟩
    rw [Slot.fill_eq, hinserted]
  · obtain ⟨front, w, rest, hfirst, hslot⟩ := slot_of_where hwhere
    refine ⟨front, w, rest, hfirst, ?_⟩
    rw [hslot]
    rfl
  · obtain ⟨p, hleast, hslot⟩ | ⟨hnone, hslot⟩ := slot_of_absent hwhere heven
    · refine .inl ⟨p, hleast, hleast.1.count_even, ?_⟩
      rw [hslot]
      rfl
    · refine .inr ⟨hnone, ?_⟩
      rw [hslot]
      rfl

/-- A statement with three clauses behind its row source: one in parentheses, one in a literal and one that counts. -/
def nestedClauses : String := "SELECT a FROM t, (SELECT b ORDER BY b) u, 'LIMIT ''9'')' v\nLIMIT 5"

theorem nestedClauses_toList : ∃ s, nestedClauses.toList = s ∧ occurs ({} : SoftDelete).comparison s = false ∧
    (search (word "WHERE") s).isSome = false ∧ s.count '\'' % 2 = 0 ∧
    endsWord ((maskByParity 0 s).take 59) = false ∧ openParentheses ((maskByParity 0 s).take 59) = 0 ∧
      (trailingClause ((maskByParity 0 s).drop 59)).isSome = true := by
  refine ⟨_, String.toList_ofList, ?_, ?_, ?_, ?_, ?_, ?_⟩
  all_goals decide

/-- The filter comes before the last of them. -/
theorem toList_inject_nestedClauses : ({} : SoftDelete).isPresent nestedClauses = false ∧
    ¬ HoldsKeyword "WHERE" nestedClauses.toList ∧ nestedClauses.toList.count '\'' % 2 = 0 ∧
    EndsSource nestedClauses.toList 59 ∧
    ∃ p, IsLeast {p | EndsSource nestedClauses.toList p} p ∧ (nestedClauses.toList.take p).count '\'' % 2 = 0 ∧
      (({} : SoftDelete).inject nestedClauses).toList = trimEnd (nestedClauses.toList.take p) ++ " WHERE ".toList ++
        ({} : SoftDelete).filterFor nestedClauses.toList ++ ' ' :: nestedClauses.toList.drop p := by
  obtain ⟨s, hs, habsent, hwhere, heven, hcut, houtside, hopens⟩ := nestedClauses_toList
  have hpresent : ({} : SoftDelete).isPresent nestedClauses = false := (congrArg _ hs).trans habsent
  have hnone : ¬ HoldsKeyword "WHERE" s := by
    rw [holdsKeyword_where_iff, hwhere]
    exact Bool.false_ne_true
  have hends : EndsSource s 59 := ⟨hcut, houtside, (trailingClause_isSome_iff _).mp hopens⟩
  rw [← hs] at hnone heven hends
  refine ⟨hpresent, hnone, heven, hends, ?_⟩
  obtain hclause | ⟨habsurd, -⟩ := (toList_inject_of_absent {} hpresent).2.2 hnone heven
  · exact hclause
  · exact absurd hends (habsurd 59)

end TenderQuery.Sql
