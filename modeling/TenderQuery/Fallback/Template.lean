import TenderQuery.Fallback.Layout
import TenderQuery.Fallback.Year

/-!
# Statement templates

A template is fixed text with fields in braces; doubled braces stand for single ones. The only value that
a field can name is the year of the question, which may be missing. A field reads
`\x7bname!conversion:layout\x7d`; the layout may hold fields of its own.

- `Template.readField` splits a field into its parts.
- `Template.fill` writes a template with its fields filled, or says what is wrong with the first bad one.
- `Template.render` fills a template only if it holds the plain year field; any other text is kept as it is.
-/
set_option autoImplicit false
namespace TenderQuery.Fallback
open TenderQuery.Text

/-- The value of a field. -/
inductive FieldValue where
  | number (n : Nat)
  | missing
  | text (s : String)
  deriving DecidableEq, Repr

namespace FieldValue

def typeName : FieldValue → String
  | number _ => "int"
  | missing => "NoneType"
  | text _ => "str"

def shown : FieldValue → String
  | number n => toString n
  | missing => "None"
  | text s => s

def ofYear : Option Nat → FieldValue
  | some n => number n
  | none => missing

/-- The value written with a layout; a missing value has none. -/
def laidOut (value : FieldValue) (spec : String) : Except Fault String :=
  match value with
  | number n => Layout.number spec n
  | text s => Layout.text spec s
  | missing =>
    if spec.isEmpty then .ok "None"
    else .error ⟨.badType, "unsupported format string passed to NoneType.__format__"⟩

def property (value : FieldValue) (name : String) : Except Fault FieldValue :=
  match value, name with
  | number n, "real" | number n, "numerator" => .ok (number n)
  | number _, "imag" => .ok (number 0)
  | number _, "denominator" => .ok (number 1)
  | value, name =>
    .error ⟨.missingAttribute, "'" ++ value.typeName ++ "' object has no attribute '" ++ name ++ "'"⟩

def converted (value : FieldValue) (conversion : Char) : Except Fault FieldValue :=
  match conversion with
  | 'r' | 's' | 'a' => .ok (text value.shown)
  | c =>
    let n := c.toNat
    let name := if 32 < n && n < 127 then c.toString else "\\x" ++ String.ofList (Nat.toDigits 16 n)
    .error ⟨.badValue, "Unknown conversion specifier " ++ name⟩

end FieldValue

namespace Template

/-- A field as written, and whether its layout holds fields. -/
structure Field where
  name : List Char
  conversion : Option Char
  layout : List Char
  nested : Bool

def refuse {α : Type} (message : String) : Except Fault α := .error ⟨.badValue, message⟩

/-! ## Reading a field -/

/-- The name up to the closing brace, colon or exclamation mark that ends it, that character, and the
rest; inside square brackets these characters belong to the name. -/
def readName : Bool → List Char → Except Fault (List Char × Char × List Char)
  | _, [] => refuse "expected '\x7d' before end of string"
  | bracketed, c :: r =>
    if bracketed then
      (readName (c != ']') r).map fun (name, rest) => (c :: name, rest)
    else if c = '\x7b' then refuse "unexpected '\x7b' in field name"
    else if c = '\x7d' || c = ':' || c = '!' then .ok ([], c, r)
    else (readName (c == '[') r).map fun (name, rest) => (c :: name, rest)

/-- The layout up to its closing brace, whether it holds a brace, and the rest; `depth` braces are open
inside it. -/
def readLayout : Nat → List Char → Except Fault (List Char × Bool × List Char)
  | _, [] => refuse "unmatched '\x7b' in format spec"
  | depth, c :: r =>
    if c = '\x7b' then
      (readLayout (depth + 1) r).map fun (spec, _, rest) => (c :: spec, true, rest)
    else if c = '\x7d' then
      match depth with
      | 0 => .ok ([], false, r)
      | d + 1 => (readLayout d r).map fun (spec, nested, rest) => (c :: spec, nested, rest)
    else (readLayout depth r).map fun (spec, nested, rest) => (c :: spec, nested, rest)

def readField (s : List Char) : Except Fault (Field × List Char) := do
  let (name, mark, s) ← readName false s
  let withLayout := fun (conversion : Option Char) (s : List Char) => do
    let (spec, nested, rest) ← readLayout 0 s
    return (Field.mk name conversion spec nested, rest)
  match mark, s with
  | ':', s => withLayout none s
  | '!', [] => refuse "end of string while looking for conversion specifier"
  | '!', [conversion] => withLayout (some conversion) []
  | '!', conversion :: c :: r =>
    if c = '\x7d' then return (⟨name, some conversion, [], false⟩, r)
    else if c = ':' then withLayout (some conversion) r
    else refuse "expected ':' after conversion specifier"
  | _, s => return (⟨name, none, [], false⟩, s)

/-! ## The value of a field -/

def isAccess (c : Char) : Bool := c == '.' || c == '['

/-- The index that a name writes in decimal digits. -/
def index? (name : List Char) : Except Fault (Option Nat) :=
  match digitsValue? name with
  | none => .ok none
  | some n => if n < Nat.pow 2 63 then .ok (some n) else refuse Layout.tooManyDigits

def noPositional {α : Type} (index : Nat) : Except Fault α :=
  .error ⟨.badIndex, "Replacement index " ++ toString index
    ++ " out of range for positional args tuple"⟩

/-- Follows the accesses behind a name; `fuel` bounds their number. -/
def access : Nat → FieldValue → List Char → Except Fault FieldValue
  | 0, value, _ => .ok value
  | _ + 1, value, [] => .ok value
  | fuel + 1, value, c :: r => do
    if c = '.' then
      let name := r.takeWhile fun c => !isAccess c
      if name.isEmpty then refuse "Empty attribute in format string"
      access fuel (← value.property (String.ofList name)) (r.drop name.length)
    else if c = '[' then
      let key := r.takeWhile (· != ']')
      if key.length == r.length then refuse "Missing ']' in format string"
      if key.isEmpty then refuse "Empty attribute in format string"
      match value with
      | .text _ => .error ⟨.badType, "string indices must be integers, not 'str'"⟩
      | _ => .error ⟨.badType, "'" ++ value.typeName ++ "' object is not subscriptable"⟩
    else refuse "Only '.' or '[' may follow ']' in format field specifier"

/-- The value that a field name stands for. There are no positional values. -/
def lookUp (year : FieldValue) (name : List Char) : Except Fault FieldValue := do
  let first := name.takeWhile fun c => !isAccess c
  let accesses := name.drop first.length
  if first.isEmpty then noPositional 0
  else match ← index? first with
    | some n => noPositional n
    | none =>
      if first = "year".toList then access accesses.length year accesses
      else .error ⟨.missingKey, String.ofList first⟩

/-! ## Filling -/

def loneBrace (c : Char) : String :=
  "Single '" ++ c.toString ++ "' encountered in format string"

/-- Fills the fields of a text. Layouts are filled in turn while `depth` allows; `fuel` bounds the number
of characters still to be read. -/
def fillFrom (year : FieldValue) : Nat → Nat → List Char → Except Fault (List Char)
  | _, _, [] => .ok []
  | _, 0, _ => .ok []
  | depth, fuel + 1, c :: r => do
    if c = '\x7b' || c = '\x7d' then
      match r with
      | [] => refuse (loneBrace c)
      | d :: r' =>
        if d = c then return c :: (← fillFrom year depth fuel r')
        else if c = '\x7d' then refuse (loneBrace c)
        else
          let (field, rest) ← readField (d :: r')
          let value ← lookUp year field.name
          let value ← match field.conversion with
            | some conversion => value.converted conversion
            | none => pure value
          let spec ←
            if field.nested then
              match depth with
              | 0 => refuse "Max string recursion exceeded"
              | depth + 1 => fillFrom year depth fuel field.layout
            else pure field.layout
          let shown ← value.laidOut (String.ofList spec)
          return shown.toList ++ (← fillFrom year depth fuel rest)
    else return c :: (← fillFrom year depth fuel r)

def fill (year : Option Nat) (template : String) : Except Fault String := do
  let s := template.toList
  return String.ofList (← fillFrom (.ofYear year) 1 s.length s)

/-- The field that is written for the year. -/
def yearField : String := "\x7byear\x7d"

/-- The statement of a template for a question. -/
def render (template : String) (question : List Char) : Except Fault String :=
  if containsString yearField template then fill (year? question) template else .ok template

end Template

end TenderQuery.Fallback
