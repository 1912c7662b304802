import TenderQuery.Sql.Literal
import TenderQuery.Text.Scan

/-!
# The shape of a statement

`defect?` finds the first of four signs that a statement cannot run although it may be safe: clauses
joined by a semicolon, a semicolon before a clause keyword, prose left over from the model, and
parentheses that do not match. The first three report the text that gives the sign.
-/
set_option autoImplicit false
namespace TenderQuery.Sql
open TenderQuery.Text

inductive Defect where
  | joinedClauses (fragment : String)
  | semicolonBeforeClause (fragment : String)
  | leftoverProse (fragment : String)
  | unbalancedParentheses
  deriving DecidableEq, Repr

namespace Defect

def message : Defect → String
  | joinedClauses _ => "Clause fragments joined by a semicolon"
  | semicolonBeforeClause _ => "Semicolon before a clause keyword"
  | leftoverProse _ => "Explanatory text left in statement"
  | unbalancedParentheses => "Unbalanced parentheses"

def fragment? : Defect → Option String
  | joinedClauses fragment | semicolonBeforeClause fragment | leftoverProse fragment => some fragment
  | unbalancedParentheses => none

end Defect

/-- A clause keyword, whole. -/
def clause : Matcher := fun s =>
  oneOfWords ["SELECT", "FROM", "WHERE", "HAVING"] s
    <|> wordPair "ORDER" "BY" s
    <|> wordPair "GROUP" "BY" s

/-- Blanks and a keyword behind a semicolon. -/
def clauseStart (keywords : List String) : Matcher := fun s => oneOfWords keywords (trimStart s)

/-- What follows the first semicolon. -/
def afterSemicolon : Matcher
  | [] => none
  | c :: r => if c = ';' then some r else afterSemicolon r

def joinedClauses : Matcher := fun s => do
  let s ← clause s
  let s ← afterSemicolon s
  clauseStart ["SELECT", "FROM", "WHERE", "ORDER", "GROUP", "HAVING"] s

def semicolonBeforeClause : Matcher
  | [] => none
  | c :: r => if c = ';' then clauseStart ["WHERE", "ORDER", "GROUP", "HAVING"] r else none

def leftoverProse : Matcher := oneOfWords ["this query", "the query", "explanation"]

/-- The text of the first match that `search` would report. -/
def fragmentAt (s : List Char) (found : List Char × List Char) : String :=
  String.ofList (consumed (s.drop found.1.length) found.2)

def defect? (sql : String) : Option Defect :=
  let s := sql.toList
  match search joinedClauses s with
  | some found => some (.joinedClauses (fragmentAt s found))
  | none =>
    match scan (fun _ _ => ()) (fun _ => semicolonBeforeClause) () s with
    | some found => some (.semicolonBeforeClause (fragmentAt s found))
    | none =>
      match search leftoverProse s with
      | some found => some (.leftoverProse (fragmentAt s found))
      | none => if parenthesesBalanced s then none else some .unbalancedParentheses

def isWellShaped (sql : String) : Bool := (defect? sql).isNone

/-- The message for a statement without a defect. -/
def wellShapedMessage : String := "Statement shape looks executable"

end TenderQuery.Sql
