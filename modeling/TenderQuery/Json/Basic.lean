import TenderQuery.Decimal.Number
import TenderQuery.Text.Quoted

/-!
# JSON values

A value is null, a truth value, a number, a text, a list or an object. The members of an object are listed
in the order in which their keys first came, each key once.

- `Json.get?`, `Json.put` and `Json.erase` work on the members of an object.
- `Json.excess?` looks for a whole number that is too long to be converted to a text.
- `Json.equal` compares by meaning: numbers by value, truth values as 0 and 1, objects without regard to
  order. Nothing equals nan.
- `Json.display` is the text of a value in messages; a text at the top is shown as it is.
-/
set_option autoImplicit false
namespace TenderQuery
open Decimal (Binary64)

inductive Json where
  | null
  | bool (b : Bool)
  | number (n : Number)
  | text (s : String)
  | list (items : List Json)
  | object (members : List (String × Json))
  deriving Inhabited

namespace Json

def int (n : Int) : Json := number (.whole n)

def nat (n : Nat) : Json := int n

def real (x : Binary64) : Json := number (.real x)

def ofOption : Option Json → Json
  | some v => v
  | none => null

def optionalText (s : Option String) : Json := ofOption (s.map text)

/-! ## Members -/

/-- Sets a key, in its place if it is there and else at the end. -/
def putMember (key : String) (value : Json) : List (String × Json) → List (String × Json)
  | [] => [(key, value)]
  | (k, v) :: rest => if k = key then (key, value) :: rest else (k, v) :: putMember key value rest

/-- Members with each key once: the first place and the last value. -/
def ofPairs (pairs : List (String × Json)) : List (String × Json) :=
  pairs.foldl (fun members (k, v) => putMember k v members) []

def get? (j : Json) (key : String) : Option Json :=
  match j with
  | object members => members.lookup key
  | _ => none

/-- The member of a key, null if there is none. -/
def getD (j : Json) (key : String) : Json := (j.get? key).getD null

def put (j : Json) (key : String) (value : Json) : Json :=
  match j with
  | object members => object (putMember key value members)
  | j => j

def erase (j : Json) (key : String) : Json :=
  match j with
  | object members => object (members.filter fun (k, _) => k != key)
  | j => j

/-! ## Views -/

def isNull : Json → Bool
  | null => true
  | _ => false

def text? : Json → Option String
  | text s => some s
  | _ => none

def int? : Json → Option Int
  | number (.whole n) => some n
  | _ => none

def bool? : Json → Option Bool
  | bool b => some b
  | _ => none

def list? : Json → Option (List Json)
  | list items => some items
  | _ => none

def members? : Json → Option (List (String × Json))
  | object members => some members
  | _ => none

/-- Null, false, zero and what is empty count as nothing. -/
def isSomething : Json → Bool
  | null => false
  | bool b => b
  | number n => !n.isZero
  | text s => !s.isEmpty
  | list items => !items.isEmpty
  | object members => !members.isEmpty

/-- The name of the kind of a value, as it stands in messages. -/
def typeName : Json → String
  | null => "NoneType"
  | bool _ => "bool"
  | number (.whole _) => "int"
  | number (.real _) => "float"
  | text _ => "str"
  | list _ => "list"
  | object _ => "dict"

/-- A number or truth value as a number. -/
def toNumber? : Json → Option Number
  | bool b => some (.whole (if b then 1 else 0))
  | number n => some n
  | _ => none

/-! ## Long numbers -/

/-- How many digits a whole number may have that is converted to a text or back, if there is a limit. -/
abbrev DigitLimit := Option Nat

def standardLimit : DigitLimit := some 4300

mutual

/-- No whole number in the value has more than `digits` digits. -/
def fits (digits : Nat) : Json → Bool
  | number (.whole n) => (Nat.toDigits 10 n.natAbs).length ≤ digits
  | list items => fitsItems digits items
  | object members => fitsMembers digits members
  | _ => true

def fitsItems (digits : Nat) : List Json → Bool
  | [] => true
  | v :: rest => fits digits v && fitsItems digits rest

def fitsMembers (digits : Nat) : List (String × Json) → Bool
  | [] => true
  | (_, v) :: rest => fits digits v && fitsMembers digits rest

end

/-- The limit that a whole number in the value exceeds, if one does. -/
def excess? (limit : DigitLimit) (j : Json) : Option Nat := limit.filter fun digits => !j.fits digits

/-! ## Equality by meaning -/

mutual

def equal : Json → Json → Bool
  | null, null => true
  | bool a, b => match b.toNumber? with
    | some n => Number.equal (.whole (if a then 1 else 0)) n
    | none => false
  | number a, b => match b.toNumber? with
    | some n => a.equal n
    | none => false
  | text a, text b => a == b
  | list a, list b => equalItems a b
  | object a, object b => a.length == b.length && equalMembers a b
  | _, _ => false

def equalItems : List Json → List Json → Bool
  | [], [] => true
  | a :: as, b :: bs => equal a b && equalItems as bs
  | _, _ => false

/-- Every member of the first list has an equal one under its key in the second. -/
def equalMembers : List (String × Json) → List (String × Json) → Bool
  | [], _ => true
  | (k, v) :: rest, members =>
    (match members.lookup k with
      | some w => equal v w
      | none => false) && equalMembers rest members

end

/-! ## Texts for messages -/

mutual

/-- The text of a value inside another one. -/
def inner : Json → String
  | null => "None"
  | bool true => "True"
  | bool false => "False"
  | number n => n.text
  | text s => Text.quoted s
  | list items => "[" ++ ", ".intercalate (innerItems items) ++ "]"
  | object members => "\x7b" ++ ", ".intercalate (innerMembers members) ++ "\x7d"

def innerItems : List Json → List String
  | [] => []
  | v :: rest => inner v :: innerItems rest

def innerMembers : List (String × Json) → List String
  | [] => []
  | (k, v) :: rest => (Text.quoted k ++ ": " ++ inner v) :: innerMembers rest

end

def display : Json → String
  | text s => s
  | j => j.inner

end Json

end TenderQuery
