import TenderQuery.Proofs.Sql.Nesting
import TenderQuery.Proofs.Sql.Prose

/-!
# The filter keeps the verdict on the shape

What the read-only gate lets through has no clause behind a semicolon, so only two signs of a bad shape are left:
prose, and parentheses that do not nest outside literals. The insertion keeps both and does not come to stand behind a
semicolon (`verdict_inject`). One letter is apart: the capital I with a dot is its own upper case, and the gate
takes a clause that begins with it for no statement.
-/
set_option autoImplicit false
namespace TenderQuery.Sql
open TenderQuery.Text

/-! ## The signs that are left -/

/-- Without clauses behind semicolons only prose and parentheses are judged. -/
theorem message_of_isUnchained {sql : String} (h : IsUnchained sql.toList) :
    (defect? sql).map Defect.message =
      if occurs leftoverProse sql.toList = true then some (Defect.leftoverProse "").message
      else if parenthesesBalanced sql.toList = true then none else some Defect.unbalancedParentheses.message := by
  have hjoined := (occurs_eq_false_iff _ _).mp h.occurs_joinedClauses
  have hclauses := (scan_everywhere_eq_none_iff semicolonBeforeClause sql.toList).mpr
    fun _ _ heq => h.semicolonBeforeClause_eq_none heq
  unfold defect? occurs
  simp only [hjoined, hclauses]
  cases search leftoverProse sql.toList with
  | some found => rfl
  | none => cases parenthesesBalanced sql.toList <;> rfl

theorem isWellShaped_eq_false_iff {sql : String} (h : IsUnchained sql.toList) :
    isWellShaped sql = false ↔ HoldsProse sql.toList ∨ ¬ Nested (parentheses sql.toList) := by
  have hmessage : isWellShaped sql = ((defect? sql).map Defect.message).isNone := Option.isNone_map.symm
  rw [hmessage, message_of_isUnchained h, ← occurs_leftoverProse_iff, ← parenthesesBalanced_iff_nested]
  cases occurs leftoverProse sql.toList with
  | true => simp
  | false => cases parenthesesBalanced sql.toList <;> simp

theorem defect_ne_of_isUnchained {sql : String} (h : IsUnchained sql.toList) (fragment : String) :
    defect? sql ≠ some (.joinedClauses fragment) ∧ defect? sql ≠ some (.semicolonBeforeClause fragment) := by
  have hmessages : ∀ d, defect? sql = some d →
      d.message ∈ [(Defect.leftoverProse "").message, Defect.unbalancedParentheses.message] := by
    intro d hd
    have hmessage := message_of_isUnchained h
    rw [hd, Option.map_some] at hmessage
    split at hmessage
    · rw [Option.some.inj hmessage]
      exact List.mem_cons_self
    · split at hmessage
      · cases hmessage
      · rw [Option.some.inj hmessage]
        exact List.mem_cons_of_mem _ List.mem_cons_self
  have hjoined : "Clause fragments joined by a semicolon" ∉
      [(Defect.leftoverProse "").message, Defect.unbalancedParentheses.message] := by decide
  have hclause : "Semicolon before a clause keyword" ∉
      [(Defect.leftoverProse "").message, Defect.unbalancedParentheses.message] := by decide
  exact ⟨fun hd => hjoined (hmessages _ hd), fun hd => hclause (hmessages _ hd)⟩

/-! ## The insertion -/

section Insertion
variable {s : List Char} {slot : Slot}

theorem keepsQuotes_of_splits (h : slot.Splits s) : KeepsQuotes slot.before slot.after := by
  have hquote : isWord '\'' = false := by decide
  intro x y hbefore hafter
  obtain hend | hnil | hstart := h.edge
  · rw [hbefore, endsWord_concat, hquote] at hend
    cases hend
  · rw [hnil] at hafter
    cases hafter
  · rw [hafter, startsWord, hquote] at hstart
    cases hstart

theorem filter_inserted (slot : Slot) (s : List Char) :
    (slot.inserted (({} : SoftDelete).filterFor s)).filter isParenthesis = ['(', ')'] := by
  have hfront : ∀ x ∈ [[' ', '('], [' ', 'W', 'H', 'E', 'R', 'E', ' ', '(']], x.filter isParenthesis = ['('] := by
    decide
  have hback : ∀ y ∈ [[' ', 'A', 'N', 'D'], [' '], []], y.filter isParenthesis = [] := by decide
  have hzero : zeroText.filter isParenthesis = [] := by decide
  have hnull : nullText.filter isParenthesis = [')'] := by decide
  have hcolumn := filter_isParenthesis_eq_nil (by decide) (isTableChar_of_mem_columnFor s)
  obtain ⟨x, y, hinserted, hx, hy⟩ := exists_inserted_around slot s
  rw [hinserted]
  simp only [List.filter_append, hfront x hx, hcolumn, hzero, hnull, hback y hy]
  rfl

theorem parenthesesBalanced_fill (h : slot.Splits s) :
    parenthesesBalanced (slot.fill (({} : SoftDelete).filterFor s)) = parenthesesBalanced s := by
  obtain ⟨gap, hgap, htext, -⟩ := h.text
  have hquote : '\'' ∉ gap := fun hmem => absurd (hgap _ hmem) (by decide)
  calc parenthesesBalanced (slot.fill (({} : SoftDelete).filterFor s))
      = parenthesesBalanced (slot.before ++ (slot.inserted (({} : SoftDelete).filterFor s) ++ slot.after)) := by
        rw [Slot.fill_eq]
    _ = parenthesesBalanced (slot.before ++ (gap ++ slot.after)) :=
        parenthesesBalanced_insert (keepsQuotes_of_splits h) hquote (not_mem_inserted slot s (by decide))
          (filter_isParenthesis_eq_nil (by decide) hgap) (filter_inserted slot s)
    _ = parenthesesBalanced s := by rw [← htext]

/-- What chains nothing has the filter behind no semicolon. -/
theorem before_ne_of_isUnchained (h : slot.Placed s) (hs : IsUnchained s) (hdotted : '\u0130' ∉ s) (r : List Char) :
    slot.before ≠ r ++ [';'] := by
  intro hbefore
  have hchained := (isUnchained_iff s).mp hs r
  have hwhere := h.splits.behind
  cases h with
  | @behindWhere front w rest _ hword hat =>
    have hend := hwhere _ _ rfl
    rw [show front ++ w = r ++ [';'] from hbefore, endsWord_concat] at hend
    exact absurd hend (by decide)
  | @beforeClause k front w rest htext hk hword hat =>
    have hclauses : ∀ k ∈ clauseKeywords, IsCapitals k ∧ k.toList.head? ≠ some 'K' := by decide
    obtain ⟨hcapitals, hkelvin⟩ := hclauses k hk
    have hspells := (fits_iff_spells hcapitals w).mp hword
    obtain ⟨back, hback, hfront⟩ := exists_back front
    have heq : s = r ++ ';' :: (back ++ (w ++ rest)) := by
      rw [htext, hfront, show trimEnd front = r ++ [';'] from hbefore]
      simp only [List.append_assoc, List.cons_append, List.nil_append]
    have hnone := hchained _ heq .statement (by decide)
    rw [trimStart_append_blanks hback, trimStart_of_startsWord (hcapitals.startsWord hspells rest),
      appliesTo_statement_of_spells hcapitals hkelvin hspells
        fun _ hmem => hdotted (by rw [heq]; simp [hmem])] at hnone
    cases hnone
  | atEnd =>
    obtain ⟨back, hback, hend⟩ := exists_back s
    have heq : s = r ++ ';' :: back := by
      rw [hend, show trimEnd s = r ++ [';'] from hbefore, List.append_assoc]
      rfl
    have hnone := hchained _ heq .nothing (by decide)
    rw [(trimStart_eq_nil_iff back).mpr hback] at hnone
    cases hnone

theorem isUnchained_fill (h : PassesGate s) (hplaced : slot.Placed s) (hdotted : '\u0130' ∉ s) :
    IsUnchained (slot.fill (({} : SoftDelete).filterFor s)) :=
  (h.fill hplaced.splits (before_ne_of_isUnchained hplaced h.unchained hdotted)).unchained

end Insertion

/-- The statement with the filter gets the verdict of the statement. Neither has a clause behind a semicolon; they are
rejected exactly if the statement holds prose or its parentheses outside literals do not nest. -/
theorem verdict_inject {sql : String} (hreadOnly : isReadOnly sql = true) (hdotted : '\u0130' ∉ sql.toList) :
    (∀ t ∈ [sql, ({} : SoftDelete).inject sql],
      (∀ fragment, defect? t ≠ some (.joinedClauses fragment) ∧
        defect? t ≠ some (.semicolonBeforeClause fragment)) ∧
      (isWellShaped t = false ↔ HoldsProse sql.toList ∨ ¬ Nested (parentheses sql.toList))) ∧
    (defect? (({} : SoftDelete).inject sql)).map Defect.message = (defect? sql).map Defect.message := by
  rw [isReadOnly_iff] at hreadOnly
  have hs := hreadOnly.unchained
  obtain ⟨hunchained, hprose, hnested⟩ : IsUnchained (({} : SoftDelete).inject sql).toList ∧
      (HoldsProse (({} : SoftDelete).inject sql).toList ↔ HoldsProse sql.toList) ∧
      parenthesesBalanced (({} : SoftDelete).inject sql).toList = parenthesesBalanced sql.toList := by
    unfold SoftDelete.inject
    split
    · exact ⟨hs, Iff.rfl, rfl⟩
    · have hplaced := placed_of sql.toList
      rw [String.toList_ofList]
      exact ⟨isUnchained_fill hreadOnly hplaced hdotted, holdsProse_fill_iff hplaced,
        parenthesesBalanced_fill hplaced.splits⟩
  refine ⟨?_, ?_⟩
  · rw [List.forall_mem_cons, List.forall_mem_singleton]
    refine ⟨⟨defect_ne_of_isUnchained hs, isWellShaped_eq_false_iff hs⟩,
      defect_ne_of_isUnchained hunchained, ?_⟩
    rw [isWellShaped_eq_false_iff hunchained, hprose, ← parenthesesBalanced_iff_nested, hnested,
      parenthesesBalanced_iff_nested]
  · have hoccurs : occurs leftoverProse (({} : SoftDelete).inject sql).toList = occurs leftoverProse sql.toList := by
      rw [Bool.eq_iff_iff, occurs_leftoverProse_iff, occurs_leftoverProse_iff, hprose]
    rw [message_of_isUnchained hs, message_of_isUnchained hunchained, hoccurs, hnested]

/-- A statement whose first WHERE stands in a literal and whose end stands behind a quote that opens none. -/
def unfinished : String := "SELECT Name, 'ask (WHERE' FROM tenderTender WHERE (Note = 'it''s"

theorem verdict_inject_unfinished : isReadOnly unfinished = true ∧ '\u0130' ∉ unfinished.toList ∧
    isWellShaped (({} : SoftDelete).inject unfinished) = false ∧
      (defect? (({} : SoftDelete).inject unfinished)).map Defect.message = some "Unbalanced parentheses" := by
  have hreadOnly : isReadOnly unfinished = true := by decide +kernel
  have hdotted : '\u0130' ∉ unfinished.toList := by decide +kernel
  have hshape : isWellShaped unfinished = false := by decide +kernel
  have hdefect : (defect? unfinished).map Defect.message = some "Unbalanced parentheses" := by decide +kernel
  obtain ⟨hboth, hmessage⟩ := verdict_inject hreadOnly hdotted
  have hsigns := (hboth _ List.mem_cons_self).2.mp hshape
  exact ⟨hreadOnly, hdotted, (hboth _ (List.mem_cons_of_mem _ List.mem_cons_self)).2.mpr hsigns,
    hmessage.trans hdefect⟩

end TenderQuery.Sql
