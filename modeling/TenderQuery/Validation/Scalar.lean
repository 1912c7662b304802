import TenderQuery.Decimal.Reading
import TenderQuery.Json.Basic
import TenderQuery.Text.Blank
import TenderQuery.Validation.Checked

/-!
# Reading scalars leniently

Settings come as texts and requests as JSON, so a number or a truth value may also be written as a text.

- `readWhole` takes whole numbers, binary numbers without a fraction, truth values, and decimal texts with
  a sign, zeros in front, an empty fraction and single underscores between digits.
- `readReal` takes every number and every text of one; `readTruth` takes 0 and 1 and the usual words.
- `Bounds` limits a number; nan is within every limit.
- `field` finds a member under one of its names, and reports issues under the name that was used.
-/
set_option autoImplicit false
namespace TenderQuery.Validation
open TenderQuery.Decimal

abbrev Reader (α : Type) := Json → Except Defect α

/-! ## Texts -/

/-- White space, without the separators U+001C to U+001F. -/
def isSpace (c : Char) : Bool := Text.isBlank c && !(28 ≤ c.toNat && c.toNat ≤ 31)

def trimSpaces (s : List Char) : List Char :=
  ((s.dropWhile isSpace).reverse.dropWhile isSpace).reverse

def readText : Reader String
  | .text s => .ok s
  | _ => .error .textType

/-- A text of at most `limit` characters. -/
def readShortText (limit : Nat) : Reader String
  | .text s => if limit < s.length then .error .textTooLong else .ok s
  | _ => .error .textType

/-- Underscores side by side. -/
def hasDoubleUnderscore : List Char → Bool
  | '_' :: '_' :: _ => true
  | _ :: r => hasDoubleUnderscore r
  | [] => false

/-- Drops underscores that stand alone and inside a text; others make it none. -/
def dropUnderscores? (s : List Char) : Option (List Char) :=
  if s.contains '_' && s.head? != some '_' && s.getLast? != some '_' && !hasDoubleUnderscore s then
    some (s.filter (· != '_'))
  else none

/-! ## Whole numbers -/

def isNonzeroDigit (c : Char) : Bool := c.isDigit && c != '0'

/-- What follows zeros, of which `last` was the last character: the digits after them, or one zero. -/
def afterZeros? (last : Char) : List Char → Option (List Char)
  | [] => some [last]
  | c :: r =>
    if c = '0' || c = '_' then afterZeros? c r
    else if c = '.' then some (last :: c :: r)
    else if isNonzeroDigit c then some (c :: r)
    else none

def dropLeadingZeros? : List Char → Option (List Char)
  | [] => none
  | c :: r =>
    if c = '0' then afterZeros? c r
    else if isNonzeroDigit c || c = '-' then some (c :: r)
    else none

/-- Drops a fraction of zeros. -/
def dropZeroFraction (s : List Char) : List Char :=
  let fraction := (s.dropWhile (· != '.')).drop 1
  if s.contains '.' && fraction.all (· == '0') then s.takeWhile (· != '.') else s

/-- Decimal digits without zeros in front. -/
def plainDigits? (s : List Char) : Option Nat :=
  if s.isEmpty || !s.all Char.isDigit || (s.head? == some '0' && 1 < s.length) then none
  else some (digitsToNat s)

def plainWhole? : List Char → Option Int
  | '-' :: r => (plainDigits? r).map fun n => -(n : Int)
  | s => (plainDigits? s).map Int.ofNat

/-- Drops a plus sign; a minus sign may not follow it. -/
def dropPlus? : List Char → Option (List Char)
  | '+' :: '-' :: _ => none
  | '+' :: r => some r
  | s => some s

def wholeOfText? (s : List Char) : Option Int := do
  let s := dropZeroFraction (← dropLeadingZeros? (← dropPlus? (trimSpaces s)))
  plainWhole? ((dropUnderscores? s).getD s)

/-- The longest text that is read as a whole number. -/
def wholeTextLimit : Nat := 4300

def readWholeText (s : String) : Except Defect Int :=
  if wholeTextLimit < s.utf8ByteSize then .error .wholeTextSize
  else match wholeOfText? s.toList with
    | some n => .ok n
    | none => .error .wholeText

/-- A binary number as a whole one with 64 bits. -/
def wholeOfReal (x : Binary64) : Except Defect Int :=
  if !x.isFinite then .error .notFinite
  else match x.toInt? with
    | none => .error .fractional
    | some n => if -Int.pow 2 63 < n && n < Int.pow 2 63 then .ok n else .error .wholeTextSize

def readWhole : Reader Int
  | .bool b => .ok (if b then 1 else 0)
  | .number (.whole n) => .ok n
  | .number (.real x) => wholeOfReal x
  | .text s => readWholeText s
  | _ => .error .wholeType

/-! ## Binary numbers -/

/-- A binary number by name. -/
def namedReal? (negative : Bool) (name : List Char) : Option Binary64 :=
  let name := String.ofList (name.map Char.toLower)
  if name = "inf" || name = "infinity" then some (.infinity negative)
  else if name = "nan" then some .nan
  else none

def plainReal? (s : List Char) : Option Binary64 :=
  let (negative, r) := readSign s
  match namedReal? negative r with
  | some x => some x
  | none =>
    let (written, rest) := readUnsigned r
    if rest.isEmpty && written.hasDigits then some (written.toBinary64 negative) else none

def realOfText? (s : List Char) : Option Binary64 :=
  match plainReal? (trimSpaces s) with
  | some x => some x
  | none => (dropUnderscores? s).bind plainReal?

/-- A whole number too large to be a finite binary one is refused. -/
def readReal : Reader Binary64
  | .bool b => .ok (.ofInt (if b then 1 else 0))
  | .number (.whole n) => if (Binary64.ofInt n).isFinite then .ok (.ofInt n) else .error .realType
  | .number (.real x) => .ok x
  | .text s => match realOfText? s.toList with
    | some x => .ok x
    | none => .error .realText
  | _ => .error .realType

/-! ## Truth values -/

def truthWords : List (String × Bool) :=
  [ ("0", false), ("off", false), ("f", false), ("false", false), ("n", false), ("no", false),
    ("1", true), ("on", true), ("t", true), ("true", true), ("y", true), ("yes", true) ]

def truthOfWhole (n : Int) : Except Defect Bool :=
  if n = 0 then .ok false else if n = 1 then .ok true else .error .truthText

def readTruth : Reader Bool
  | .bool b => .ok b
  | .text s => match truthWords.lookup (s.map Char.toLower) with
    | some b => .ok b
    | none => .error .truthText
  | .number (.whole n) =>
    if -Int.pow 2 63 ≤ n && n < Int.pow 2 63 then truthOfWhole n else .error .truthType
  | .number (.real x) => match wholeOfReal x with
    | .ok n => truthOfWhole n
    | .error _ => .error .truthType
  | _ => .error .truthType

/-! ## Choices, absence and limits -/

/-- One of the values that have these names. -/
def readChoice {α : Type} (choices : List (String × α)) : Reader α
  | .text s => match choices.lookup s with
    | some a => .ok a
    | none => .error .choice
  | _ => .error .choice

/-- Null is no value. -/
def readOptional {α : Type} (read : Reader α) : Reader (Option α)
  | .null => .ok none
  | j => (read j).map some

/-- Limits of a number: `least` and `most` belong to the range, `above` does not. -/
structure Bounds where
  least : Option Number := none
  above : Option Number := none
  most : Option Number := none

def Bounds.defect? (bounds : Bounds) (n : Number) : Option Defect :=
  if bounds.most.any fun most => most.lt n then some .tooLarge
  else if bounds.least.any fun least => n.lt least then some .tooSmall
  else if bounds.above.any fun above => n.le above then some .notAbove
  else none

def readWholeWithin (bounds : Bounds) : Reader Int := fun j => do
  let n ← readWhole j
  match bounds.defect? (.whole n) with
  | some d => .error d
  | none => .ok n

def readRealWithin (bounds : Bounds) : Reader Binary64 := fun j => do
  let x ← readReal j
  match bounds.defect? (.real x) with
  | some d => .error d
  | none => .ok x

/-! ## Lists and members -/

def readList {α : Type} (read : Json → Checked α) : Json → Checked (List α)
  | .list items => Checked.items read 0 items
  | _ => .defect .listType

/-- The first of the names that has a member, and the member. -/
def namedMember? (names : List String) (source : Json) : Option (String × Json) :=
  names.findSome? fun name => (source.get? name).map fun value => (name, value)

/-- Reads a member under one of its names, or else takes what stands for its absence. -/
def field {α : Type} (names : List String) (source : Json) (absent : Checked α)
    (read : Json → Checked α) : Checked α :=
  match namedMember? names source with
  | some (name, value) => (read value).under (.key name)
  | none => absent

end TenderQuery.Validation
