import TenderQuery.Data.Calendar
import TenderQuery.Data.Uuid
import TenderQuery.Decimal.Exact
import TenderQuery.Json.Basic

/-!
# Values of database columns

A cell holds what a column of a row can hold: plain JSON, an exact decimal, a date, a time, an identifier
or bytes.

- `Cell.toScalar` is the plain value that stands for a cell in a sample row.
- `Cell.toEntry` is the value that stands for it in an audit entry.
-/
set_option autoImplicit false
namespace TenderQuery.Data

/-- How bytes are held; the kinds differ in their text only. -/
inductive BytesKind where
  | constant
  | mutable
  | view
  deriving DecidableEq, Repr

inductive Cell where
  | json (value : Json)
  | decimal (value : Decimal.Exact)
  | date (value : Date)
  | dateTime (date : Date) (time : TimeOfDay)
  | time (value : TimeOfDay)
  | uuid (value : Uuid)
  | bytes (kind : BytesKind) (value : List UInt8)
  deriving Inhabited

abbrev Row := List (String × Cell)

namespace Cell

/-- Scalars stay, decimals become binary numbers, times are written in ISO form, bytes are counted, and
whatever else there is becomes its text. -/
def toScalar : Cell → Json
  | json (.list items) => .text (Json.list items).display
  | json (.object members) => .text (Json.object members).display
  | json value => value
  | decimal value => .real value.toBinary64
  | date value => .text value.text
  | dateTime d t => .text (d.text ++ "T" ++ t.text)
  | time value => .text value.text
  | uuid value => .text value.text
  | bytes _ value => .text ("<" ++ toString value.length ++ " bytes>")

/-- The text of bytes of some kind. -/
def bytesText (kind : BytesKind) (value : List UInt8) : String :=
  match kind with
  | .mutable => "bytearray(" ++ Text.quotedBytes value ++ ")"
  | _ => Text.quotedBytes value

/-- Plain JSON stays, and any other cell becomes its text. -/
def toEntry : Cell → Json
  | json value => value
  | decimal value => .text value.text
  | date value => .text value.text
  | dateTime d t => .text (d.text ++ " " ++ t.text)
  | time value => .text value.text
  | uuid value => .text value.text
  | bytes kind value => .text (bytesText kind value)

end Cell

end TenderQuery.Data
