import TenderQuery.Json.Basic

/-!
# JSON text

Values are written with `, ` between items and `: ` behind keys, and with all characters beyond ASCII as
`\u` escapes of their UTF-16 units. Binary numbers are written by their shortest digits; those that are no
number have names.

- `Json.line` keeps the order of members.
- `Json.canonical` puts the members of every object in the code point order of their keys, so that the
  text does not depend on the order in which an object was built.
-/
set_option autoImplicit false
namespace TenderQuery.Json
open TenderQuery.Text

/-! ## Texts -/

def escapeUnit (n : Nat) : List Char := '\\' :: 'u' :: hexDigits 4 n

/-- The UTF-16 units of a character. -/
def unitsOf (c : Char) : List Nat :=
  let n := c.toNat
  if n < 65536 then [n] else [0xD800 + (n - 65536) / 1024, 0xDC00 + (n - 65536) % 1024]

def writeChar (c : Char) : List Char :=
  if c = '"' then ['\\', '"']
  else if c = '\\' then ['\\', '\\']
  else if 32 ≤ c.toNat && c.toNat < 127 then [c]
  else if c = '\n' then ['\\', 'n']
  else if c = '\r' then ['\\', 'r']
  else if c = '\t' then ['\\', 't']
  else if c.toNat = 8 then ['\\', 'b']
  else if c.toNat = 12 then ['\\', 'f']
  else (unitsOf c).flatMap escapeUnit

def writeText (s : String) : List Char := '"' :: s.toList.flatMap writeChar ++ ['"']

/-! ## Values -/

def writeNumber : Number → List Char
  | .whole n => (toString n).toList
  | .real x => (x.textWith "NaN" "Infinity").toList

/-- Puts a member where its key belongs, in front of keys that are not smaller. -/
def insertByKey {α : Type} (member : String × α) : List (String × α) → List (String × α)
  | [] => [member]
  | m :: rest => if m.1 < member.1 then m :: insertByKey member rest else member :: m :: rest

def sortByKey {α : Type} (members : List (String × α)) : List (String × α) :=
  members.foldr insertByKey []

/-- Texts with a comma and a space between them. -/
def separated : List (List Char) → List Char
  | [] => []
  | [t] => t
  | t :: rest => t ++ ',' :: ' ' :: separated rest

def writeMember (key : String) (value : List Char) : List Char := writeText key ++ ':' :: ' ' :: value

abbrev WrittenMembers := List (String × List Char)

def writeObject (members : WrittenMembers) : List Char :=
  '\x7b' :: separated (members.map fun (k, v) => writeMember k v) ++ ['\x7d']

mutual

/-- Writes a value; `arrange` puts the members of an object in order. -/
def write (arrange : WrittenMembers → WrittenMembers) : Json → List Char
  | null => ['n', 'u', 'l', 'l']
  | bool true => ['t', 'r', 'u', 'e']
  | bool false => ['f', 'a', 'l', 's', 'e']
  | number n => writeNumber n
  | text s => writeText s
  | list items => '[' :: separated (writeItems arrange items) ++ [']']
  | object members => writeObject (arrange (writeMembers arrange members))

def writeItems (arrange : WrittenMembers → WrittenMembers) : List Json → List (List Char)
  | [] => []
  | v :: rest => write arrange v :: writeItems arrange rest

def writeMembers (arrange : WrittenMembers → WrittenMembers) : List (String × Json) → WrittenMembers
  | [] => []
  | (k, v) :: rest => (k, write arrange v) :: writeMembers arrange rest

end

def canonical (j : Json) : String := String.ofList (j.write sortByKey)

def line (j : Json) : String := String.ofList (j.write id)

end TenderQuery.Json
