import TenderQuery.Proofs.Sql.Comparison
import TenderQuery.Proofs.Sql.Insertion
import TenderQuery.Proofs.Sql.Shape

/-!
# The filter in a statement

The filter names the flag column twice and otherwise brings only the words of `joiningWords`. A statement
into which it was inserted has it (`isPresent_inject`, for every column); for the usual column a statement
that is read-only stays so, unless its shape gives it away (`isReadOnly_inject`).
-/
set_option autoImplicit false
namespace TenderQuery.Sql
open TenderQuery.Text

/-! ## The text of the filter -/

/-- The column of the filter for a statement, with its qualifier. -/
def SoftDelete.columnFor (policy : SoftDelete) (s : List Char) : List Char :=
  match qualifier? s with
  | some [] | none => policy.column.toList
  | some q => q ++ '.' :: policy.column.toList

def zeroText : List Char := [' ', '=', ' ', '0', ' ', 'O', 'R', ' ']

def nullText : List Char := [' ', 'I', 'S', ' ', 'N', 'U', 'L', 'L', ')']

theorem filterFor_eq (policy : SoftDelete) (s : List Char) :
    policy.filterFor s =
      '(' :: (policy.columnFor s ++ (zeroText ++ (policy.columnFor s ++ nullText))) := by
  have hzero : " = 0 OR ".toList = zeroText := by decide
  have hnull : " IS NULL)".toList = nullText := by decide
  have hopen : "(".toList = ['('] := by decide
  have hdot : ".".toList = ['.'] := by decide
  unfold SoftDelete.filterFor SoftDelete.predicate SoftDelete.columnFor
  cases qualifier? s with
  | none => simp [hzero, hnull, hopen]
  | some q =>
    cases q with
    | nil => simp [hzero, hnull, hopen]
    | cons c r => simp [hzero, hnull, hopen, hdot]

theorem exists_column (policy : SoftDelete) (s : List Char) :
    ∃ x, endsWord ('(' :: x) = false ∧ policy.columnFor s = x ++ policy.column.toList := by
  unfold SoftDelete.columnFor
  split
  · exact ⟨[], by decide, rfl⟩
  · exact ⟨[], by decide, rfl⟩
  · rename_i q _ _
    refine ⟨q ++ ['.'], ?_, by rw [List.append_assoc]; rfl⟩
    rw [← List.cons_append, endsWord_concat]
    decide

theorem exists_inserted (slot : Slot) (filter : List Char) :
    ∃ x y, slot.inserted filter = x ++ (filter ++ y) := by
  cases slot with
  | behindWhere front rest => exact ⟨[' '], " AND".toList, rfl⟩
  | beforeClause front rest => exact ⟨" WHERE ".toList, [' '], List.append_assoc _ _ _⟩
  | atEnd front => exact ⟨" WHERE ".toList, [], by rw [List.append_nil]; rfl⟩

/-! ## The filter is there -/

theorem isComparison_zero (column : List Char) : IsComparison column (column ++ [' ', '=', ' ', '0']) :=
  ⟨column, [], [' '], ['=', ' ', '0'], rfl, fits_self column, .inl rfl, isBlanks_space,
    .inl ⟨[' '], rfl, isBlanks_space⟩⟩

/-- The first half of the filter is a comparison. -/
theorem exists_comparison_filterFor (policy : SoftDelete) (s : List Char) :
    ∃ x piece y, policy.filterFor s = x ++ (piece ++ ' ' :: y) ∧ endsWord x = false ∧ x ≠ [] ∧
      IsComparison policy.column.toList piece := by
  obtain ⟨x, hend, hcolumn⟩ := exists_column policy s
  refine ⟨'(' :: x, policy.column.toList ++ [' ', '=', ' ', '0'],
    'O' :: 'R' :: ' ' :: (policy.columnFor s ++ nullText), ?_, hend, List.cons_ne_nil _ _, isComparison_zero _⟩
  rw [filterFor_eq, hcolumn]
  simp only [zeroText, List.append_assoc, List.cons_append, List.nil_append]

theorem exists_comparison (policy : SoftDelete) (slot : Slot) (s : List Char) :
    ∃ x piece y, slot.inserted (policy.filterFor s) = x ++ (piece ++ ' ' :: y) ∧ endsWord x = false ∧
      x ≠ [] ∧ IsComparison policy.column.toList piece := by
  obtain ⟨front, back, hinserted⟩ := exists_inserted slot (policy.filterFor s)
  obtain ⟨x, piece, y, hfilter, hend, hne, hpiece⟩ := exists_comparison_filterFor policy s
  refine ⟨front ++ x, piece, y ++ back, ?_, ?_, List.append_ne_nil_of_right_ne_nil _ hne, hpiece⟩
  · rw [hinserted, hfilter]
    simp only [List.append_assoc, List.cons_append]
  · rw [endsWord_append hne]
    exact hend

/-- A text that holds the filter that any statement would get is one with a filter. -/
theorem isPresent_of_filter {policy : SoftDelete} {s : List Char} {sql : String}
    (h : policy.filterFor s <:+: sql.toList) : policy.isPresent sql = true := by
  obtain ⟨before, after, heq⟩ := h
  obtain ⟨x, piece, y, hfilter, hend, hne, hpiece⟩ := exists_comparison_filterFor policy s
  rw [isPresent_iff]
  refine ⟨before ++ x, piece, ' ' :: y ++ after, ?_, ?_, hpiece, (by decide : isWord ' ' = false)⟩
  · rw [← heq, hfilter]
    simp only [List.append_assoc, List.cons_append]
  · rw [endsWord_append hne]
    exact hend

theorem isPresent_inject (policy : SoftDelete) (sql : String) :
    policy.isPresent (policy.inject sql) = true := by
  unfold SoftDelete.inject
  split
  · assumption
  · obtain ⟨x, y, hinserted⟩ := exists_inserted (Slot.of sql.toList) (policy.filterFor sql.toList)
    have hfilter : policy.filterFor sql.toList <:+: (Slot.of sql.toList).fill (policy.filterFor sql.toList) := by
      rw [Slot.fill_eq, hinserted]
      exact ⟨(Slot.of sql.toList).before ++ x, y ++ (Slot.of sql.toList).after, by simp only [List.append_assoc]⟩
    apply isPresent_of_filter
    rwa [String.toList_ofList]

/-! ## The words of the filter -/

/-- The words that the filter on the usual column brings into a statement. -/
def joiningWords : List (List Char) :=
  [['I', 's', 'D', 'e', 'l', 'e', 't', 'e', 'd'], ['0'], ['O', 'R'], ['I', 'S'], ['N', 'U', 'L', 'L'],
   ['W', 'H', 'E', 'R', 'E'], ['A', 'N', 'D']]

theorem hasNoBlocked_joiningWords : HasNoBlocked joiningWords := by decide

theorem words_columnFor (s : List Char) :
    ∀ w ∈ words (({} : SoftDelete).columnFor s), w ∈ words s ∨ w ∈ joiningWords := by
  have hcolumn : words ({} : SoftDelete).column.toList = [['I', 's', 'D', 'e', 'l', 'e', 't', 'e', 'd']] := by
    decide
  have hplain : ∀ w ∈ words ({} : SoftDelete).column.toList, w ∈ joiningWords := by
    rw [hcolumn]
    decide
  intro w hw
  unfold SoftDelete.columnFor at hw
  split at hw
  · exact .inr (hplain w hw)
  · exact .inr (hplain w hw)
  · rename_i q _ hq
    have hdot : words (q ++ '.' :: ({} : SoftDelete).column.toList) =
        words q ++ words ({} : SoftDelete).column.toList :=
      words_append fun _ => (by decide : isWord '.' = false)
    rw [hdot, List.mem_append] at hw
    obtain hw | hw := hw
    · exact .inl (words_qualifier_subset hq hw)
    · exact .inr (hplain w hw)

theorem words_filterFor (s : List Char) :
    ∀ w ∈ words (({} : SoftDelete).filterFor s), w ∈ words s ∨ w ∈ joiningWords := by
  generalize hc : ({} : SoftDelete).columnFor s = column
  have hcolumn : ∀ w ∈ words column, w ∈ words s ∨ w ∈ joiningWords := hc ▸ words_columnFor s
  have hsecond : words (column ++ nullText) = words column ++ words nullText :=
    words_append fun _ => (by decide : isWord ' ' = false)
  have hmiddle : words (zeroText ++ (column ++ nullText)) = words zeroText ++ words (column ++ nullText) :=
    words_append fun hend => absurd hend (by decide)
  have hfirst : words (column ++ (zeroText ++ (column ++ nullText))) =
      words column ++ words (zeroText ++ (column ++ nullText)) :=
    words_append fun _ => (by decide : isWord ' ' = false)
  have hzero : ∀ w ∈ words zeroText, w ∈ joiningWords := by decide
  have hnull : ∀ w ∈ words nullText, w ∈ joiningWords := by decide
  intro w hw
  rw [filterFor_eq, hc, words_cons_of_not_isWord (by decide), hfirst, hmiddle, hsecond] at hw
  simp only [List.mem_append] at hw
  obtain hw | hw | hw | hw := hw
  · exact hcolumn w hw
  · exact .inr (hzero w hw)
  · exact hcolumn w hw
  · exact .inr (hnull w hw)

theorem words_inserted (slot : Slot) (s : List Char) :
    ∀ w ∈ words (slot.inserted (({} : SoftDelete).filterFor s)), w ∈ words s ∨ w ∈ joiningWords := by
  have hfilter := words_filterFor s
  have hstart : startsWord (({} : SoftDelete).filterFor s) = false := by
    rw [filterFor_eq]
    exact (by decide : isWord '(' = false)
  generalize ({} : SoftDelete).filterFor s = filter at hfilter hstart
  have hand : words " AND".toList = [['A', 'N', 'D']] := by decide
  have hwhere : words " WHERE ".toList = [['W', 'H', 'E', 'R', 'E']] := by decide
  have hjoined : ∀ w ∈ words (" WHERE ".toList ++ filter), w ∈ words s ∨ w ∈ joiningWords := by
    intro w hw
    rw [words_append fun _ => hstart, hwhere, List.mem_append] at hw
    obtain hw | hw := hw
    · exact .inr (by rw [List.mem_singleton.mp hw]; decide)
    · exact hfilter w hw
  have hspace : words [' '] = [] := by decide
  intro w hw
  cases slot with
  | behindWhere front rest =>
    have hblank : words (' ' :: filter ++ " AND".toList) = words (' ' :: filter) ++ words " AND".toList :=
      words_append fun _ => (by decide : startsWord " AND".toList = false)
    rw [show Slot.inserted filter (.behindWhere front rest) = ' ' :: filter ++ " AND".toList from rfl, hblank,
      words_cons_of_not_isWord (by decide), hand, List.mem_append] at hw
    obtain hw | hw := hw
    · exact hfilter w hw
    · exact .inr (by rw [List.mem_singleton.mp hw]; decide)
  | beforeClause front rest =>
    have hblank : words (" WHERE ".toList ++ filter ++ [' ']) =
        words (" WHERE ".toList ++ filter) ++ words [' '] :=
      words_append fun _ => (by decide : isWord ' ' = false)
    rw [show Slot.inserted filter (.beforeClause front rest) = " WHERE ".toList ++ filter ++ [' '] from rfl,
      hblank, List.mem_append] at hw
    exact hjoined w (hw.resolve_right (hspace ▸ List.not_mem_nil))
  | atEnd front => exact hjoined w hw

/-! ## The characters of the filter -/

/-- The characters of names, and those that the filter has besides. -/
def isFilterChar (c : Char) : Bool := isTableChar c || [' ', '(', ')', '='].contains c

theorem isFilterChar_of_isTableChar {c : Char} (h : isTableChar c = true) : isFilterChar c = true := by
  unfold isFilterChar
  rw [h]
  rfl

theorem isTableChar_of_mem_columnFor (s : List Char) :
    ∀ c ∈ ({} : SoftDelete).columnFor s, isTableChar c = true := by
  have hcolumn : ∀ c ∈ ({} : SoftDelete).column.toList, isTableChar c = true := by decide
  unfold SoftDelete.columnFor
  split
  · exact hcolumn
  · exact hcolumn
  · rename_i q _ hq
    simp only [List.forall_mem_append, List.forall_mem_cons]
    exact ⟨isTableChar_of_mem_qualifier hq, by decide, hcolumn⟩

theorem isFilterChar_of_mem_filterFor (s : List Char) :
    ∀ c ∈ ({} : SoftDelete).filterFor s, isFilterChar c = true := by
  have hzero : ∀ c ∈ zeroText, isFilterChar c = true := by decide
  have hnull : ∀ c ∈ nullText, isFilterChar c = true := by decide
  have hcolumn : ∀ c ∈ ({} : SoftDelete).columnFor s, isFilterChar c = true :=
    fun c hc => isFilterChar_of_isTableChar (isTableChar_of_mem_columnFor s c hc)
  rw [filterFor_eq]
  simp only [List.forall_mem_append, List.forall_mem_cons]
  exact ⟨by decide, hcolumn, hzero, hcolumn, hnull⟩

theorem isFilterChar_of_mem_inserted (slot : Slot) (s : List Char) :
    ∀ c ∈ slot.inserted (({} : SoftDelete).filterFor s), isFilterChar c = true := by
  have hfilter := isFilterChar_of_mem_filterFor s
  have hand : ∀ c ∈ " AND".toList, isFilterChar c = true := by decide
  have hwhere : ∀ c ∈ " WHERE ".toList, isFilterChar c = true := by decide
  unfold Slot.inserted
  generalize " AND".toList = joint at hand
  generalize " WHERE ".toList = clause at hwhere
  cases slot with
  | behindWhere front rest =>
    simp only [List.forall_mem_append, List.forall_mem_cons]
    exact ⟨⟨by decide, hfilter⟩, hand⟩
  | beforeClause front rest =>
    simp only [List.forall_mem_append, List.forall_mem_singleton]
    exact ⟨⟨hwhere, hfilter⟩, by decide⟩
  | atEnd front =>
    simp only [List.forall_mem_append]
    exact ⟨hwhere, hfilter⟩

theorem not_mem_inserted (slot : Slot) (s : List Char) {c : Char} (hc : isFilterChar c = false) :
    c ∉ slot.inserted (({} : SoftDelete).filterFor s) :=
  fun hmem => Bool.false_ne_true (hc.symm.trans (isFilterChar_of_mem_inserted slot s c hmem))

/-! ## The insertion keeps a statement read-only -/

theorem whereText_eq : " WHERE ".toList = [' ', 'W', 'H', 'E', 'R', 'E', ' '] := by decide

/-- The insertion begins with a blank and a character that is in no comparison. -/
theorem exists_inserted_eq_cons (policy : SoftDelete) (slot : Slot) (s : List Char) :
    ∃ m r, slot.inserted (policy.filterFor s) = ' ' :: m :: r ∧ m ∈ ['(', 'W'] := by
  cases slot with
  | behindWhere front rest =>
    unfold Slot.inserted
    rw [filterFor_eq]
    exact ⟨'(', _, rfl, by decide⟩
  | beforeClause front rest =>
    unfold Slot.inserted
    rw [whereText_eq, List.append_assoc]
    exact ⟨'W', _, rfl, by decide⟩
  | atEnd front =>
    unfold Slot.inserted
    rw [whereText_eq]
    exact ⟨'W', _, rfl, by decide⟩

/-- The filter behind a semicolon is a sign of a bad shape. -/
theorem semicolonBeforeClause_where (rest : List Char) :
    (semicolonBeforeClause (';' :: (" WHERE ".toList ++ rest))).isSome = true := by
  have hword : word "WHERE" ('W' :: 'H' :: 'E' :: 'R' :: 'E' :: ' ' :: rest) = some (' ' :: rest) := by
    refine word_eq_some_iff.mpr ⟨['W', 'H', 'E', 'R', 'E'], rfl, ?_, ?_⟩
    · decide
    · exact (by decide : isWord ' ' = false)
  rw [whereText_eq]
  change (clauseStart ["WHERE", "ORDER", "GROUP", "HAVING"]
    (' ' :: 'W' :: 'H' :: 'E' :: 'R' :: 'E' :: ' ' :: rest)).isSome = true
  unfold clauseStart
  rw [oneOfWords_isSome_iff]
  refine ⟨"WHERE", List.mem_cons_self, ?_⟩
  rw [show trimStart (' ' :: 'W' :: 'H' :: 'E' :: 'R' :: 'E' :: ' ' :: rest) =
    'W' :: 'H' :: 'E' :: 'R' :: 'E' :: ' ' :: rest from rfl, hword]
  rfl

/-- In a well-shaped text the filter does not stand behind a semicolon. -/
theorem before_ne_of_hasGoodShape {s filter : List Char} {slot : Slot} (hsplits : slot.Splits s)
    (h : HasGoodShape (slot.fill filter)) (r : List Char) : slot.before ≠ r ++ [';'] := by
  intro hbefore
  have hclause : ∀ rest, slot.fill filter ≠ r ++ ';' :: (" WHERE ".toList ++ rest) := by
    intro rest heq
    have hsome := semicolonBeforeClause_where rest
    rw [h.clauses r _ heq] at hsome
    cases hsome
  cases slot with
  | behindWhere front rest =>
    have hlast := hsplits.behind front rest rfl
    rw [show front = r ++ [';'] from hbefore, endsWord_concat] at hlast
    exact absurd hlast (by decide)
  | beforeClause front rest =>
    refine hclause (filter ++ ' ' :: rest) ?_
    rw [Slot.fill, show front = r ++ [';'] from hbefore]
    simp only [List.append_assoc, List.cons_append, List.nil_append]
  | atEnd front =>
    refine hclause filter ?_
    rw [Slot.fill, show front = r ++ [';'] from hbefore]
    simp only [List.append_assoc, List.cons_append, List.nil_append]

/-- The filter on the usual column keeps what the gate asks of a text, if it does not come to stand behind a
semicolon. -/
theorem PassesGate.fill {s : List Char} {slot : Slot} (h : PassesGate s) (hsplits : slot.Splits s)
    (hlast : ∀ r, slot.before ≠ r ++ [';']) : PassesGate (slot.fill (({} : SoftDelete).filterFor s)) := by
  obtain ⟨m, r, hinserted, -⟩ := exists_inserted_eq_cons {} slot s
  refine h.insert hsplits ⟨m :: r, hinserted⟩ ?_ (not_mem_inserted _ _ (by decide)) hlast
  intro w hw
  obtain hw | hw := words_inserted _ _ w hw
  · exact h.unblocked w hw
  · exact hasNoBlocked_joiningWords w hw

/-- So it keeps a read-only statement read-only, unless the shape of the result tells that it stands there. -/
theorem isReadOnly_inject {sql : String} (h : isReadOnly sql = true)
    (hshape : isWellShaped (({} : SoftDelete).inject sql) = true) :
    isReadOnly (({} : SoftDelete).inject sql) = true := by
  unfold SoftDelete.inject at hshape ⊢
  split at hshape
  · rename_i hpresent
    rw [if_pos hpresent]
    exact h
  · rename_i hpresent
    rw [if_neg hpresent]
    rw [isReadOnly_iff] at h ⊢
    rw [isWellShaped_iff] at hshape
    rw [String.toList_ofList] at hshape ⊢
    have hsplits := splits_of sql.toList
    exact h.fill hsplits (before_ne_of_hasGoodShape hsplits hshape)

end TenderQuery.Sql
