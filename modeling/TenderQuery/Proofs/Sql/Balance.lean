import TenderQuery.Proofs.Sql.Nesting

/-!
# Balance told by counting quotes

`outerParentheses` picks the parentheses of a text by their places alone: those with an even number of quotes before
them. Where the quotes of a text come in pairs, these are the parentheses outside its literals
(`parentheses_eq_outerParentheses`), so the check of a statement accepts it exactly if they nest
(`parenthesesBalanced_iff_nested_outer`).
-/
set_option autoImplicit false
namespace TenderQuery.Sql

/-- A parenthesis, with its place in the text, that an even number of quotes stands before. -/
def isOuter (s : List Char) (x : Char × Nat) : Bool := isParenthesis x.1 && (s.take x.2).count '\'' % 2 == 0

def outerParentheses (s : List Char) : List Char := (s.zipIdx.filter (isOuter s)).map Prod.fst

/-- At a cut of a text its quotes are counted, and the character behind it is judged by their number. -/
theorem isOuter_append_cons (front : List Char) (c : Char) (back : List Char) :
    isOuter (front ++ c :: back) (c, front.length) = (isParenthesis c && front.count '\'' % 2 == 0) := by
  rw [isOuter, List.take_left]

/-- What an odd number of quotes stands before is blank, and a blank is no parenthesis. -/
theorem filter_maskByParity_cons (quotes : Nat) (c : Char) (s : List Char) :
    (maskByParity quotes (c :: s)).filter isParenthesis =
      (if (isParenthesis c && quotes % 2 == 0) = true then [c] else []) ++
        (maskByParity (quotes + [c].count '\'') s).filter isParenthesis := by
  by_cases hc : c = '\''
  · subst hc
    rw [maskByParity_quote, List.filter_cons_of_neg (by decide)]
    rfl
  · rw [maskByParity_cons_of_ne hc, List.count_singleton, beq_false_of_ne hc]
    obtain heven | hodd := Nat.mod_two_eq_zero_or_one quotes
    · rw [heven, if_neg (by decide), List.filter_cons]
      cases isParenthesis c <;> rfl
    · rw [hodd, if_pos rfl, List.filter_cons_of_neg (by decide), Bool.and_eq_false_imp.mpr fun _ => by decide]
      rfl

/-- Behind any text, by induction on what follows: the places go on where that text ends. -/
theorem filter_maskByParity (front s : List Char) :
    (maskByParity (front.count '\'') s).filter isParenthesis =
      ((s.zipIdx front.length).filter (isOuter (front ++ s))).map Prod.fst := by
  induction s generalizing front with
  | nil => rfl
  | cons c s ih =>
    have hrest := ih (front ++ [c])
    rw [List.count_append, List.length_append, List.length_singleton, List.append_assoc,
      List.singleton_append] at hrest
    rw [filter_maskByParity_cons, hrest, List.zipIdx_cons, List.filter_cons, isOuter_append_cons]
    split
    · rw [List.map_cons, List.singleton_append]
    · rw [List.nil_append]

theorem parentheses_eq_outerParentheses {s : List Char} (h : s.count '\'' % 2 = 0) :
    parentheses s = outerParentheses s := by
  rw [parentheses, maskLiterals_eq_maskByParity h]
  exact filter_maskByParity [] s

/-- In a statement whose quotes come in pairs, the parentheses balance exactly if those behind an even number of
quotes are a word of the grammar of nested pairs. -/
theorem parenthesesBalanced_iff_nested_outer {sql : String} (h : sql.toList.count '\'' % 2 = 0) :
    parenthesesBalanced sql.toList = true ↔ Nested (outerParentheses sql.toList) := by
  rw [parenthesesBalanced_iff_nested, parentheses_eq_outerParentheses h]

/-- A statement with a parenthesis behind a doubled quote, one alone in a literal and a literal of nothing in
a pair. -/
def quotedParentheses : String := "SELECT 'it''s (', Lower(')'), ('') FROM tenderTender"

theorem parenthesesBalanced_quotedParentheses :
    quotedParentheses.toList.count '\'' % 2 = 0 ∧ parenthesesBalanced quotedParentheses.toList = true ∧
      outerParentheses quotedParentheses.toList = ['(', ')', '(', ')'] ∧
      Nested (outerParentheses quotedParentheses.toList) := by
  have hquotes : quotedParentheses.toList.count '\'' % 2 = 0 := by decide +kernel
  have hbalanced : parenthesesBalanced quotedParentheses.toList = true := by decide +kernel
  have houter : outerParentheses quotedParentheses.toList = ['(', ')', '(', ')'] := by decide +kernel
  exact ⟨hquotes, hbalanced, houter, (parenthesesBalanced_iff_nested_outer hquotes).mp hbalanced⟩

end TenderQuery.Sql
