import TenderQuery.Json.Basic
import TenderQuery.Decimal.Reading

/-!
# Reading JSON

`Json.readWithin?` reads one value that fills a text, with blanks around it. Besides standard JSON the names
`NaN`, `Infinity` and `-Infinity` are numbers. Of members with one key the last value counts. A unit of a
surrogate pair that stands alone becomes U+FFFD. A whole number with more digits than the limit is refused;
`Json.read?` reads with the standard limit.
-/
set_option autoImplicit false
namespace TenderQuery.Json
open TenderQuery.Decimal

/-! ## Blanks and texts -/

def isSpace (c : Char) : Bool := c == ' ' || c == '\t' || c == '\n' || c == '\r'

def skipSpace (s : List Char) : List Char := s.dropWhile isSpace

def hexValue? (c : Char) : Option Nat :=
  let n := c.toNat
  if 48 ≤ n && n ≤ 57 then some (n - 48)
  else if 97 ≤ n && n ≤ 102 then some (n - 87)
  else if 65 ≤ n && n ≤ 70 then some (n - 55)
  else none

def hexUnit? (a b c d : Char) : Option Nat := do
  return (((← hexValue? a) * 16 + (← hexValue? b)) * 16 + (← hexValue? c)) * 16 + (← hexValue? d)

def simpleEscape? : Char → Option Nat
  | '"' => some 34
  | '\\' => some 92
  | '/' => some 47
  | 'b' => some 8
  | 'f' => some 12
  | 'n' => some 10
  | 'r' => some 13
  | 't' => some 9
  | _ => none

/-- The code points and UTF-16 units of a text up to its closing quote, and what follows it. -/
def readUnits : List Char → Option (List Nat × List Char)
  | [] => none
  | '"' :: r => some ([], r)
  | '\\' :: 'u' :: a :: b :: c :: d :: r => do
    let n ← hexUnit? a b c d
    let (units, rest) ← readUnits r
    return (n :: units, rest)
  | '\\' :: e :: r => do
    let n ← simpleEscape? e
    let (units, rest) ← readUnits r
    return (n :: units, rest)
  | c :: r =>
    if c.toNat < 32 || c = '\\' then none
    else (readUnits r).map fun (units, rest) => (c.toNat :: units, rest)

def isHighUnit (n : Nat) : Bool := 0xD800 ≤ n && n < 0xDC00

def isLowUnit (n : Nat) : Bool := 0xDC00 ≤ n && n < 0xE000

def replacement : Char := Char.ofNat 0xFFFD

/-- Joins the two units of a surrogate pair. -/
def joinUnits : List Nat → List Char
  | [] => []
  | [n] => [if isHighUnit n || isLowUnit n then replacement else Char.ofNat n]
  | n :: m :: rest =>
    if isHighUnit n && isLowUnit m then
      Char.ofNat (65536 + (n - 0xD800) * 1024 + (m - 0xDC00)) :: joinUnits rest
    else (if isHighUnit n || isLowUnit n then replacement else Char.ofNat n) :: joinUnits (m :: rest)

def readText (s : List Char) : Option (String × List Char) := do
  let (units, rest) ← readUnits s
  return (String.ofList (joinUnits units), rest)

/-! ## Numbers -/

/-- Whole digits without a leading zero. -/
def readWhole (s : List Char) : Option (List Char × List Char) :=
  match s with
  | '0' :: r => some (['0'], r)
  | s => match takeDigits s with
    | ([], _) => none
    | (digits, rest) => some (digits, rest)

/-- A point with digits behind it; without digits there is no fraction. -/
def readDigitFraction (s : List Char) : Option (List Char) × List Char :=
  match s with
  | '.' :: r => match takeDigits r with
    | ([], _) => (none, s)
    | (digits, rest) => (some digits, rest)
  | s => (none, s)

def readNumber (limit : DigitLimit) (negative : Bool) (s : List Char) : Option (Json × List Char) := do
  let (whole, s) ← readWhole s
  let (fraction, s) := readDigitFraction s
  let (exponent, s) := readExponent s
  if fraction.isNone && exponent.isNone then
    if limit.any fun digits => digits < whole.length then none
    else
      let n : Int := digitsToNat whole
      return (int (if negative then -n else n), s)
  else return (real ((Written.mk whole fraction exponent).toBinary64 negative), s)

/-! ## Values -/

/-- Removes a fixed text from the front. -/
def dropExact (t : String) (s : List Char) : Option (List Char) :=
  if t.toList.isPrefixOf s then some (s.drop t.toList.length) else none

/-- The values that are written as a name. -/
def readName (s : List Char) : Option (Json × List Char) :=
  [("null", null), ("true", bool true), ("false", bool false), ("NaN", real .nan),
   ("Infinity", real (.infinity false)), ("-Infinity", real (.infinity true))].findSome?
    fun (name, value) => (dropExact name s).map fun rest => (value, rest)

def readScalar (limit : DigitLimit) (s : List Char) : Option (Json × List Char) :=
  match readName s with
  | some found => some found
  | none => match s with
    | '-' :: r => readNumber limit true r
    | s => readNumber limit false s

mutual

/-- A value; `fuel` bounds the calls. -/
def readValue (limit : DigitLimit) : Nat → List Char → Option (Json × List Char)
  | 0, _ => none
  | fuel + 1, s =>
    match skipSpace s with
    | '"' :: r => (readText r).map fun (t, rest) => (text t, rest)
    | '[' :: r => match skipSpace r with
      | ']' :: rest => some (list [], rest)
      | r => (readItems limit fuel r).map fun (items, rest) => (list items, rest)
    | '\x7b' :: r => match skipSpace r with
      | '\x7d' :: rest => some (object [], rest)
      | r => (readMembers limit fuel r).map fun (pairs, rest) => (object (ofPairs pairs), rest)
    | r => readScalar limit r

/-- The items up to the closing bracket. -/
def readItems (limit : DigitLimit) : Nat → List Char → Option (List Json × List Char)
  | 0, _ => none
  | fuel + 1, s => do
    let (v, s) ← readValue limit fuel s
    match skipSpace s with
    | ']' :: rest => return ([v], rest)
    | ',' :: r =>
      let (items, rest) ← readItems limit fuel r
      return (v :: items, rest)
    | _ => none

/-- The members up to the closing brace. -/
def readMembers (limit : DigitLimit) : Nat → List Char → Option (List (String × Json) × List Char)
  | 0, _ => none
  | fuel + 1, s =>
    match skipSpace s with
    | '"' :: r => do
      let (key, s) ← readText r
      match skipSpace s with
      | ':' :: r =>
        let (v, s) ← readValue limit fuel r
        match skipSpace s with
        | '\x7d' :: rest => return ([(key, v)], rest)
        | ',' :: r =>
          let (pairs, rest) ← readMembers limit fuel r
          return ((key, v) :: pairs, rest)
        | _ => none
      | _ => none
    | _ => none

end

/-- Reads a value that fills the text. -/
def readCharsWithin? (limit : DigitLimit) (s : List Char) : Option Json := do
  let (v, rest) ← readValue limit (2 * s.length + 2) s
  if (skipSpace rest).isEmpty then some v else none

def readWithin? (limit : DigitLimit) (s : String) : Option Json := readCharsWithin? limit s.toList

def readChars? : List Char → Option Json := readCharsWithin? standardLimit

def read? : String → Option Json := readWithin? standardLimit

end TenderQuery.Json
