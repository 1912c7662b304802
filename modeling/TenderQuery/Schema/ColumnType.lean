import TenderQuery.Json.Basic
import TenderQuery.Text.Scan

/-!
# Names of column types

`ColumnType.text` is the compact name of a column type in lower case. Character types keep their length,
decimal types their precision and scale; any other type keeps the name that the dialect gives it. A type
without such a name is unknown.
-/
set_option autoImplicit false
namespace TenderQuery.Schema
open TenderQuery.Text

/-- What a catalog reports of a column type. -/
structure ColumnType where
  dialectName : Option String
  length : Json := .null
  precision : Json := .null
  scale : Json := .null

namespace ColumnType

def characterTypes : List String := ["char", "nchar", "varchar", "nvarchar", "character varying"]

def decimalTypes : List String := ["decimal", "numeric"]

/-- The name in front of a parenthesis. -/
def baseName (name : List Char) : String :=
  String.ofList (lower (trim (name.takeWhile (· != '('))))

/-- Drops the space behind every comma. -/
def tightCommas : List Char → List Char
  | ',' :: ' ' :: r => ',' :: tightCommas r
  | c :: r => c :: tightCommas r
  | [] => []

def text (t : ColumnType) : String :=
  match t.dialectName with
  | none => "unknown"
  | some name =>
    let chars := name.toList
    let base := baseName chars
    if characterTypes.contains base then
      if t.length.isNull && contains "(max)".toList (lower chars) then base ++ "(MAX)"
      else if t.length.isSomething then base ++ "(" ++ t.length.display ++ ")"
      else base
    else if decimalTypes.contains base then
      if t.precision.isNull || t.scale.isNull then base
      else base ++ "(" ++ t.precision.display ++ "," ++ t.scale.display ++ ")"
    else String.ofList (lower (tightCommas chars))

end ColumnType

end TenderQuery.Schema
