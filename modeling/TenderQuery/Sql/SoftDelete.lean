import TenderQuery.Sql.Literal
import TenderQuery.Text.Scan

/-!
# The soft-delete filter

A row counts as deleted when a flag column of its table says so. `SoftDelete.inject` adds the filter on
that column to a statement that lacks it:

- behind the first WHERE, joined with AND;
- else before the first clause outside parentheses and literals that can follow the row source;
- else at the end.

When the statement joins tables, the column is qualified by the short name, or else the name, of the first
table after FROM. `SoftDelete.isPresent` says that a comparison of the column with 0 or NULL is there
already, and such a statement is left alone.
-/
set_option autoImplicit false
namespace TenderQuery.Sql
open TenderQuery.Text

structure SoftDelete where
  column : String := "IsDeleted"
  deriving DecidableEq, Repr

/-! ## The table whose rows are filtered -/

def isNameChar (c : Char) : Bool := isWord c || c == '[' || c == ']'

/-- A table name, with schema and brackets, and the short name that follows it. -/
structure RowSource where
  table : List Char
  shortName : Option (List Char)

def nonEmpty (s : List Char) : Option (List Char) := if s.isEmpty then none else some s

/-- The word behind the blanks that follow a table name, without an AS before it. -/
def readAlias (s : List Char) : Option (List Char) := do
  let s ← someBlanks s
  let afterAs := do
    let s ← dropFold "AS".toList s
    let s ← someBlanks s
    nonEmpty (s.takeWhile isNameChar)
  afterAs <|> nonEmpty (s.takeWhile isNameChar)

def readRowSource (s : List Char) : Option RowSource := do
  let s ← dropFold "FROM".toList s
  let s ← someBlanks s
  let isTableChar := fun c => isNameChar c || c == '.'
  let table ← nonEmpty (s.takeWhile isTableChar)
  return ⟨table, readAlias (s.dropWhile isTableChar)⟩

/-- Words that continue the statement where a short name could stand. -/
def notAliases : List String :=
  ["where", "join", "inner", "left", "right", "full", "cross", "outer", "on", "order", "group",
   "having", "union", "with", "option", "limit", "except", "intersect"]

def RowSource.qualifier (source : RowSource) : List Char :=
  match source.shortName with
  | some name => if notAliases.contains (String.ofList (lower name)) then source.table else name
  | none => source.table

/-- The qualifier that a statement with joins needs. -/
def qualifier? (s : List Char) : Option (List Char) :=
  if occurs (word "JOIN") s then
    (searchTopLevel readRowSource (maskLiterals s)).map fun (_, source) => source.qualifier
  else none

/-! ## Where the filter goes -/

/-- A clause that can follow the row source. -/
def trailingClause : Matcher := fun s =>
  oneOfWords ["HAVING", "LIMIT", "UNION", "EXCEPT", "INTERSECT"] s
    <|> wordPair "GROUP" "BY" s
    <|> wordPair "ORDER" "BY" s
    <|> (do
      let s ← dropFold "OPTION".toList s
      match trimStart s with
      | '(' :: r => some r
      | _ => none)

/-- The place of the filter, with the text that stays before it and the text that stays behind it. -/
inductive Slot where
  | behindWhere (before after : List Char)
  | beforeClause (before after : List Char)
  | atEnd (before : List Char)

namespace Slot

/-- Blanks at the place are dropped, except behind a WHERE. -/
def of (s : List Char) : Slot :=
  match search (word "WHERE") s with
  | some (before, rest) => behindWhere (before ++ consumed (s.drop before.length) rest) rest
  | none =>
    match searchTopLevel trailingClause (maskLiterals s) with
    | some (before, _) => beforeClause (trimEnd (s.take before.length)) (s.drop before.length)
    | none => atEnd (trimEnd s)

def fill (filter : List Char) : Slot → List Char
  | behindWhere before after => before ++ ' ' :: filter ++ " AND".toList ++ after
  | beforeClause before after => before ++ " WHERE ".toList ++ filter ++ ' ' :: after
  | atEnd before => before ++ " WHERE ".toList ++ filter

end Slot

namespace SoftDelete

/-- A comparison of the column with 0 or NULL. -/
def comparison (policy : SoftDelete) : Matcher := fun s => do
  let s ← dropFold policy.column.toList s
  let s := trimStart (match s with | ']' :: r => r | s => s)
  let isZero := match s with
    | '=' :: r => word "0" (trimStart r)
    | _ => none
  isZero <|> wordPair "IS" "NULL" s

def isPresent (policy : SoftDelete) (sql : String) : Bool := occurs policy.comparison sql.toList

def predicate (policy : SoftDelete) (qualifier : Option String) : String :=
  let column := match qualifier with
    | some q => if q.isEmpty then policy.column else q ++ "." ++ policy.column
    | none => policy.column
  "(" ++ column ++ " = 0 OR " ++ column ++ " IS NULL)"

/-- The filter for a statement. -/
def filterFor (policy : SoftDelete) (s : List Char) : List Char :=
  (policy.predicate ((qualifier? s).map String.ofList)).toList

def inject (policy : SoftDelete) (sql : String) : String :=
  if policy.isPresent sql then sql
  else String.ofList ((Slot.of sql.toList).fill (policy.filterFor sql.toList))

end SoftDelete

end TenderQuery.Sql
