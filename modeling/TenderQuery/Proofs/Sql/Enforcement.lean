import TenderQuery.Proofs.Sql.Filter
import TenderQuery.Proofs.Sql.Lexis
import TenderQuery.Proofs.Sql.Plain

/-!
# When the filter is in force

A filter that stands in a literal or in a comment filters nothing. The place of an insertion is found without
regard to comments, and the one behind a WHERE without regard to literals too, so it need not lie in code.
`isEnforced_inject_iff` says when it does: a statement without a filter gets it in force, with every literal
kept, exactly if the text before the insertion ends in code. A statement that seems to have the filter is left
alone, and it may have it in a literal or in a comment only.
-/
set_option autoImplicit false
namespace TenderQuery.Sql
open TenderQuery.Text

/-- The whole piece stands outside literals and comments. -/
def StandsInCode (before piece : List Char) : Prop :=
  ∀ x y, piece = x ++ y → y ≠ [] → (lex (before ++ x)).inCode = true

/-- A comparison of the column with 0 or NULL stands in code. -/
def IsEnforced (policy : SoftDelete) (s : List Char) : Prop :=
  ∃ before piece after, s = before ++ (piece ++ after) ∧ endsWord before = false ∧
    IsComparison policy.column.toList piece ∧ startsWord after = false ∧ StandsInCode before piece

/-! ## The lexer on the insertion -/

theorem isInert_of_isFilterChar {c : Char} (h : isFilterChar c = true) : isInert c = true := by
  rw [isInert_iff]
  refine ⟨?_, ?_, ?_, ?_⟩
  all_goals
    rintro rfl
    exact absurd h (by decide)

theorem isInert_of_mem_inserted (slot : Slot) (s : List Char) :
    ∀ c ∈ slot.inserted (({} : SoftDelete).filterFor s), isInert c = true :=
  fun c hc => isInert_of_isFilterChar (isFilterChar_of_mem_inserted slot s c hc)

theorem inserted_ne_nil (policy : SoftDelete) (slot : Slot) (s : List Char) :
    slot.inserted (policy.filterFor s) ≠ [] := by
  obtain ⟨m, r, hinserted, -⟩ := exists_inserted_eq_cons policy slot s
  rw [hinserted]
  exact List.cons_ne_nil _ _

theorem settled_lex_of_endsWord {s : List Char} (hend : endsWord s = true) (hcode : (lex s).inCode = true) :
    (lex s).settled = lex s := by
  obtain rfl | ⟨r, c, rfl⟩ := List.eq_nil_or_concat s
  · cases hend
  · rw [List.concat_eq_append] at hend hcode ⊢
    rw [endsWord_concat] at hend
    rw [lex_append] at hcode ⊢
    refine Lexer.settled_step (isInert_of_isWord hend) ?_ hcode
    rintro rfl
    exact absurd hend (by decide)

theorem literals_fill {s : List Char} {slot : Slot} (h : slot.Splits s)
    (hcode : (lex slot.before).inCode = true) :
    literals (slot.fill (({} : SoftDelete).filterFor s)) = literals s := by
  obtain ⟨gap, hgap, htext, -⟩ := h.text
  have hinserted :=
    Lexer.foldl_step_of_isInert hcode (isInert_of_mem_inserted slot s) (inserted_ne_nil _ slot s)
  have hblank : ∀ c ∈ gap, isInert c = true := fun c hc => isInert_of_isBlank (hgap c hc)
  have hsettled : (gap ++ slot.after).foldl Lexer.step (lex slot.before).settled =
      slot.after.foldl Lexer.step (lex slot.before).settled := by
    rw [List.foldl_append, Lexer.foldl_step_settled _ hblank]
  have hliterals : ((gap ++ slot.after).foldl Lexer.step (lex slot.before).settled).literals =
      ((gap ++ slot.after).foldl Lexer.step (lex slot.before)).literals := by
    obtain hend | hedge := h.edge
    · rw [settled_lex_of_endsWord hend hcode]
    · refine Lexer.literals_foldl_settled hcode fun c hc => ?_
      cases gap with
      | cons d gap =>
        cases hc
        exact hblank c List.mem_cons_self
      | nil =>
        rw [List.nil_append] at hc
        obtain hnil | hstart := hedge
        · rw [hnil] at hc
          cases hc
        · obtain ⟨r, hr⟩ := List.head?_eq_some_iff.mp hc
          rw [hr] at hstart
          exact isInert_of_isWord hstart
  have hfill : lex (slot.fill (({} : SoftDelete).filterFor s)) =
      slot.after.foldl Lexer.step (lex slot.before).settled := by
    rw [Slot.fill_eq, lex_append, List.foldl_append, hinserted]
  have hlex : lex s = (gap ++ slot.after).foldl Lexer.step (lex slot.before) :=
    (congrArg lex htext).trans (lex_append _ _)
  unfold literals
  rw [hfill, hlex, ← hsettled, hliterals]

theorem isEnforced_of_inCode {s : List Char} {slot : Slot} (hcode : (lex slot.before).inCode = true) :
    IsEnforced {} (slot.fill (({} : SoftDelete).filterFor s)) := by
  have hinert := isInert_of_mem_inserted slot s
  obtain ⟨x, piece, y, hinserted, hend, hne, hpiece⟩ := exists_comparison {} slot s
  rw [hinserted] at hinert
  simp only [List.forall_mem_append] at hinert
  have hspace : startsWord (' ' :: y ++ slot.after) = false := (by decide : isWord ' ' = false)
  refine ⟨slot.before ++ x, piece, ' ' :: y ++ slot.after, ?_, ?_, hpiece, hspace, ?_⟩
  · rw [Slot.fill_eq, hinserted]
    simp only [List.append_assoc, List.cons_append]
  · rw [endsWord_append hne]
    exact hend
  · rintro a b rfl -
    rw [lex_append, lex_append]
    refine Lexer.inCode_foldl (Lexer.inCode_foldl hcode hinert.1) fun c hc => ?_
    exact hinert.2.1 c (List.mem_append_left _ hc)

/-! ## Comparisons around an insertion -/

theorem isKeyword_column : IsKeyword ({} : SoftDelete).column.toList := by decide

theorem not_mem_of_isComparison {piece : List Char}
    (h : IsComparison ({} : SoftDelete).column.toList piece) {m : Char}
    (hm : m ∈ ['(', 'W']) : m ∉ piece := by
  have hcolumn : ∀ m ∈ ['(', 'W'], ∀ p ∈ ({} : SoftDelete).column.toList, sameLetter p m = false := by
    decide
  have hletters : ∀ m ∈ ['(', 'W'], ∀ p ∈ "IS".toList ++ "NULL".toList, sameLetter p m = false := by
    decide
  have hblank : ∀ m ∈ ['(', 'W'], isBlank m = false := by decide
  have hmarks : ∀ m ∈ ['(', 'W'], m ∉ [']', '=', '0'] := by decide
  exact h.not_mem (hblank m hm) (hmarks m hm) (hcolumn m hm) (hletters m hm)

theorem exists_rest_of_comparison {column piece front rest r : List Char} {m : Char}
    (h : IsComparison column piece)
    (hm : m ∉ piece) (heq : piece ++ rest = front ++ ' ' :: m :: r) :
    ∃ back, front = piece ++ back ∧ rest = back ++ ' ' :: m :: r := by
  obtain ⟨back, hfront, hrest⟩ | ⟨excess, rfl, hexcess⟩ := List.append_eq_append_iff.mp heq
  · exact ⟨back, hfront, hrest⟩
  · cases excess with
    | nil => exact ⟨[], by rw [List.append_nil, List.append_nil], hexcess.symm⟩
    | cons d excess =>
      rw [List.cons_append, List.cons.injEq] at hexcess
      obtain ⟨rfl, hexcess⟩ := hexcess
      cases excess with
      | nil =>
        have hend := h.endsWord
        rw [endsWord_concat] at hend
        exact absurd hend (by decide)
      | cons e excess =>
        cases hexcess
        exact absurd (List.mem_append_right _ (List.mem_cons_of_mem _ List.mem_cons_self)) hm

/-- Behind an insertion a word begins only where it does without the insertion. -/
theorem endsWord_of_behind {front inserted gap a rest : List Char}
    (ha : endsWord (front ++ (inserted ++ a)) = false) (hrest : startsWord rest = true)
    (hcut : endsWord (front ++ gap) = true → startsWord (a ++ rest) = false) :
    endsWord (front ++ gap ++ a) = false := by
  cases a with
  | nil =>
    rw [List.append_nil, ← Bool.not_eq_true]
    intro hend
    exact Bool.false_ne_true ((hcut hend).symm.trans hrest)
  | cons d a =>
    rw [← List.append_assoc, endsWord_append (List.cons_ne_nil d a)] at ha
    rw [endsWord_append (List.cons_ne_nil d a)]
    exact ha

/-- A word that ends before an insertion ends there without the insertion. -/
theorem startsWord_of_before {front back gap behind inserted : List Char} (hgap : IsBlanks gap)
    (hrest : startsWord (back ++ inserted) = false)
    (hfront : endsWord front = true)
    (hcut : endsWord (front ++ back ++ gap) = true → startsWord behind = false) :
    startsWord (back ++ (gap ++ behind)) = false := by
  cases back with
  | cons d back => exact hrest
  | nil =>
    cases gap with
    | cons d gap => exact isWord_of_isBlank (hgap d List.mem_cons_self)
    | nil =>
      refine hcut ?_
      rw [List.append_nil, List.append_nil]
      exact hfront

/-- If a comparison stands in code of the text with an insertion that does not, it stands in the text itself. -/
theorem exists_comparison_of_isEnforced {s : List Char} {slot : Slot} (h : slot.Splits s)
    (hcode : (lex slot.before).inCode = false)
    (henforced : IsEnforced {} (slot.fill (({} : SoftDelete).filterFor s))) :
    ∃ a piece b, s = a ++ (piece ++ b) ∧ endsWord a = false ∧
      IsComparison ({} : SoftDelete).column.toList piece ∧ startsWord b = false := by
  obtain ⟨gap, hgap, htext, hcut⟩ := h.text
  obtain ⟨m, r, hinserted, hm⟩ := exists_inserted_eq_cons {} slot s
  have hinert := isInert_of_mem_inserted slot s
  have hline : '\n' ∉ slot.inserted (({} : SoftDelete).filterFor s) := not_mem_inserted slot s (by decide)
  obtain ⟨a, piece, rest, heq, ha, hpiece, hrest, hstands⟩ := henforced
  have hstart := hpiece.startsWord isKeyword_column
  have hne : piece ≠ [] := by
    rintro rfl
    cases hstart
  rw [Slot.fill_eq] at heq
  obtain ⟨a', rfl, hbehind⟩ | ⟨front, hbefore, hfront⟩ := List.append_eq_append_iff.mp heq
  · obtain ⟨a₂, rfl, hafter⟩ | ⟨excess, hexcess, -⟩ := List.append_eq_append_iff.mp hbehind
    · -- The comparison stands behind the insertion.
      refine ⟨slot.before ++ gap ++ a₂, piece, rest, ?_, ?_, hpiece, hrest⟩
      · rw [htext, hafter]
        simp only [List.append_assoc]
      · rw [hafter] at hcut
        have hbegins : startsWord (piece ++ rest) = true := (startsWord_append hne).trans hstart
        exact endsWord_of_behind ha hbegins hcut
    · -- The comparison begins within the insertion, which is not in code.
      have hin := hstands [] piece rfl hne
      rw [List.append_nil, lex_append] at hin
      rw [hexcess] at hinert hline
      rw [List.forall_mem_append] at hinert
      rw [List.mem_append, not_or] at hline
      rw [Lexer.inCode_foldl_of_not_inCode hcode hinert.1 hline.1] at hin
      cases hin
  · -- The comparison begins before the insertion.
    rw [hinserted] at hfront
    obtain ⟨back, rfl, hback⟩ :=
      exists_rest_of_comparison hpiece (not_mem_of_isComparison hpiece hm) hfront
    refine ⟨a, piece, back ++ (gap ++ slot.after), ?_, ha, hpiece, ?_⟩
    · rw [htext, hbefore]
      simp only [List.append_assoc]
    · rw [hbefore, ← List.append_assoc] at hcut
      rw [hback] at hrest
      have hends : endsWord (a ++ piece) = true := (endsWord_append hne).trans hpiece.endsWord
      exact startsWord_of_before hgap hrest hends hcut

/-! ## The filter in force -/

/-- When a statement with the filter applied has it in force and all its literals unchanged. -/
theorem isEnforced_inject_iff (sql : String) :
    (IsEnforced {} (({} : SoftDelete).inject sql).toList ∧
        literals (({} : SoftDelete).inject sql).toList = literals sql.toList) ↔
      if ({} : SoftDelete).isPresent sql = true then IsEnforced {} sql.toList
      else (lex (Slot.of sql.toList).before).inCode = true := by
  unfold SoftDelete.inject
  split
  · exact and_iff_left rfl
  · rename_i habsent
    have hsplits := splits_of sql.toList
    rw [String.toList_ofList]
    constructor
    · rintro ⟨henforced, -⟩
      rw [← Bool.not_eq_false]
      intro hcode
      exact habsent ((isPresent_iff {} sql).mpr (exists_comparison_of_isEnforced hsplits hcode henforced))
    · intro hcode
      exact ⟨isEnforced_of_inCode hcode, literals_fill hsplits hcode⟩

/-- A statement whose first WHERE stands in a literal. -/
def quotedWhere : String := "SELECT Name, 'ask WHERE it is' FROM tenderTender"

theorem quotedWhere_toList : ∃ s, quotedWhere.toList = s ∧ IsPlain s ∧ IsTerminated s ∧
    occurs ({} : SoftDelete).comparison s = false ∧ (lex (Slot.of s).before).inCode = false ∧
      literals ((Slot.of s).fill (({} : SoftDelete).filterFor s)) ≠ literals s := by
  refine ⟨_, String.toList_ofList, ⟨?_, ?_, ?_, ?_⟩, ?_, ?_, ?_, ?_⟩
  all_goals decide

/-- The filter lands in that literal: it changes the literal and filters nothing. -/
theorem inject_quotedWhere : isReadOnly quotedWhere = true ∧ IsTerminated quotedWhere.toList ∧
    ¬ IsEnforced {} (({} : SoftDelete).inject quotedWhere).toList ∧
      literals (({} : SoftDelete).inject quotedWhere).toList ≠ literals quotedWhere.toList := by
  obtain ⟨s, hs, hplain, hterminated, habsent, hcode, hliterals⟩ := quotedWhere_toList
  have hpresent : ({} : SoftDelete).isPresent quotedWhere = false := (congrArg _ hs).trans habsent
  have hinject : (({} : SoftDelete).inject quotedWhere).toList =
      (Slot.of s).fill (({} : SoftDelete).filterFor s) := by
    unfold SoftDelete.inject
    rw [hpresent, if_neg Bool.false_ne_true, String.toList_ofList, hs]
  rw [hinject, hs]
  refine ⟨(accepted_of_isPlain (hs ▸ hplain)).1, hterminated, ?_, hliterals⟩
  intro henforced
  have hfound := exists_comparison_of_isEnforced (splits_of s) hcode henforced
  rw [← hs, ← isPresent_iff, hpresent] at hfound
  cases hfound

end TenderQuery.Sql
