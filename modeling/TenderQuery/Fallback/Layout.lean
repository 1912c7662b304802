import TenderQuery.Fault
import TenderQuery.Text.Digit

/-!
# Layout of a value

A layout says how a number or a text is written into a field: padding, sign, base, digit groups, precision
and notation, in that order, all optional.

- `Layout.parse` reads `fill align sign z # 0 width , _ .precision notation`.
- `Layout.number` writes a natural number, `Layout.text` a text; each refuses what makes no sense for it.
-/
set_option autoImplicit false
namespace TenderQuery.Fallback
open TenderQuery.Text

structure Layout where
  fill : Char
  align : Char
  sign : Option Char
  positiveZero : Bool
  alternate : Bool
  width : Nat
  group : Option Char
  precision : Option Nat
  notationChar : Char

namespace Layout

def refuse {α : Type} (message : String) : Except Fault α := .error ⟨.badValue, message⟩

/-- A character inside an error text; what cannot be shown there is given by its code. -/
def shownChar (c : Char) : String :=
  let n := c.toNat
  if 32 < n && n < 128 then c.toString
  else "\\x" ++ String.ofList (Nat.toDigits 16 n)

def isAlign (c : Char) : Bool := c == '<' || c == '>' || c == '=' || c == '^'

def isSign (c : Char) : Bool := c == ' ' || c == '+' || c == '-'

def tooManyDigits : String := "Too many decimal digits in format string"

/-- Reads a number, which has to fit a machine word, if one is there. -/
def readNumber (s : List Char) : Except Fault (Option Nat × List Char) :=
  let digits := s.takeWhile isDecimalDigit
  match digitsValue? digits with
  | none => .ok (none, s)
  | some n =>
    if n < Nat.pow 2 63 then .ok (some n, s.drop digits.length) else refuse tooManyDigits

/-- Takes the character in front if it satisfies `p`. -/
def takeIf (p : Char → Bool) : List Char → Option Char × List Char
  | [] => (none, [])
  | c :: r => if p c then (some c, r) else (none, c :: r)

def readAlign : List Char → Option Char × Option Char × List Char
  | c :: d :: r =>
    if isAlign d then (some c, some d, r)
    else if isAlign c then (none, some c, d :: r)
    else (none, none, c :: d :: r)
  | [c] => if isAlign c then (none, some c, []) else (none, none, [c])
  | [] => (none, none, [])

def mixedGroups : String := "Cannot specify both ',' and '_'."

def readGroup (s : List Char) : Except Fault (Option Char × List Char) :=
  match s with
  | ',' :: '_' :: _ | '_' :: ',' :: _ => refuse mixedGroups
  | ',' :: r => .ok (some ',', r)
  | '_' :: r => .ok (some '_', r)
  | r => .ok (none, r)

def readPrecision : List Char → Except Fault (Option Nat × List Char)
  | '.' :: r => do
    match ← readNumber r with
    | (some n, r) => return (some n, r)
    | (none, _) => refuse "Format specifier missing precision"
  | r => return (none, r)

def allowsComma (c : Char) : Bool := "defgEG%F".toList.contains c

def isBaseNotation (c : Char) : Bool := "boxX".toList.contains c

/-- Reads a layout for values of the named type. -/
def parse (typeName : String) (defaultAlign defaultNotation : Char) (spec : String) :
    Except Fault Layout := do
  let (fill?, align?, s) := readAlign spec.toList
  let (sign, s) := takeIf isSign s
  let (positiveZero, s) := takeIf (· == 'z') s
  let (alternate, s) := takeIf (· == '#') s
  let (leadingZero, s) := if fill?.isSome then (none, s) else takeIf (· == '0') s
  let zeroAlign := if leadingZero.isSome && defaultAlign == '>' then '=' else defaultAlign
  let (width, s) ← readNumber s
  let (group, s) ← readGroup s
  let (precision, s) ← readPrecision s
  let shape ← match s with
    | [] => pure defaultNotation
    | [c] => pure c
    | _ =>
      refuse ("Invalid format specifier '" ++ spec ++ "' for object of type '" ++ typeName ++ "'")
  if let some mark := group then
    if !allowsComma shape && !(isBaseNotation shape && mark == '_') then
      refuse ("Cannot specify '" ++ mark.toString ++ "' with '" ++ shownChar shape ++ "'.")
  return {
    fill := fill?.getD (if leadingZero.isSome then '0' else ' ')
    align := align?.getD zeroAlign
    sign := sign
    positiveZero := positiveZero.isSome
    alternate := alternate.isSome
    width := width.getD 0
    group := group
    precision := precision
    notationChar := shape }

/-! ## Padding -/

def padded (layout : Layout) (lead body : List Char) : String :=
  let missing := layout.width - (lead.length + body.length)
  let fill := fun n => List.replicate n layout.fill
  let text :=
    if layout.align == '<' then lead ++ body ++ fill missing
    else if layout.align == '^' then
      fill (missing / 2) ++ lead ++ body ++ fill (missing - missing / 2)
    else if layout.align == '=' then lead ++ fill missing ++ body
    else fill missing ++ lead ++ body
  String.ofList text

/-- Digit groups from the right, with leading zeros until `minWidth` characters are there; `digits` comes
least significant first, and so does the answer. -/
def grouped (mark : Char) (size : Nat) : Nat → List Char → Nat → List Char
  | 0, digits, _ => digits
  | fuel + 1, digits, minWidth =>
    let count := min size (max (max digits.length minWidth) 1)
    let group := digits.take count ++ List.replicate (count - digits.length) '0'
    let rest := digits.drop count
    let minWidth := minWidth - count
    if rest.isEmpty && minWidth == 0 then group
    else group ++ mark :: grouped mark size fuel rest (minWidth - 1)

/-- A number from its parts: sign and base mark, whole digits, and what follows them. -/
def assemble (layout : Layout) (lead digits tail : List Char) : String :=
  let lead := (match layout.sign with
    | some '+' => ['+']
    | some ' ' => [' ']
    | _ => []) ++ lead
  let minWidth :=
    if layout.fill == '0' && layout.align == '=' then layout.width - (lead.length + tail.length) else 0
  let size := if isBaseNotation layout.notationChar then 4 else 3
  let digits := match layout.group with
    | some mark =>
      (grouped mark size (digits.length + minWidth + 1) digits.reverse minWidth).reverse
    | none => List.replicate (minWidth - digits.length) '0' ++ digits
  layout.padded lead (digits ++ tail)

/-! ## Notations -/

/-- The `count` leading digits of a number, rounded half to even, and the decimal exponent of the first. -/
def leadingDigits (n count : Nat) : List Char × Nat :=
  let digits := Nat.toDigits 10 n
  let exponent := digits.length - 1
  if digits.length ≤ count then (digits ++ List.replicate (count - digits.length) '0', exponent)
  else
    let unit := Nat.pow 10 (digits.length - count)
    let up := n % unit * 2 > unit || (n % unit * 2 == unit && n / unit % 2 == 1)
    let kept := n / unit + (if up then 1 else 0)
    let shown := Nat.toDigits 10 kept
    if shown.length > count then (shown.take count, exponent + 1) else (shown, exponent)

def dropTrailingZeros (s : List Char) : List Char := (s.reverse.dropWhile (· == '0')).reverse

def point (layout : Layout) (fraction : List Char) : List Char :=
  if fraction.isEmpty && !layout.alternate then [] else '.' :: fraction

def exponentText (e : Nat) (mark : Char) : List Char :=
  let digits := Nat.toDigits 10 e
  mark :: '+' :: List.replicate (2 - digits.length) '0' ++ digits

def fixed (layout : Layout) (n : Nat) (tail : List Char) : String :=
  layout.assemble [] (Nat.toDigits 10 n)
    (layout.point (List.replicate (layout.precision.getD 6) '0') ++ tail)

def scientific (layout : Layout) (n : Nat) (mark : Char) : String :=
  let (digits, exponent) := leadingDigits n (layout.precision.getD 6 + 1)
  layout.assemble [] (digits.take 1) (layout.point (digits.drop 1) ++ exponentText exponent mark)

def general (layout : Layout) (n : Nat) (mark : Char) : String :=
  let count := max (layout.precision.getD 6) 1
  let (digits, exponent) := leadingDigits n count
  let trim := fun s => if layout.alternate then s else dropTrailingZeros s
  if exponent < count then
    layout.assemble [] (digits.take (exponent + 1)) (layout.point (trim (digits.drop (exponent + 1))))
  else
    layout.assemble [] (digits.take 1)
      (layout.point (trim (digits.drop 1)) ++ exponentText exponent mark)

def unknownNotation {α : Type} (layout : Layout) (typeName : String) : Except Fault α :=
  refuse ("Unknown format code '" ++ shownChar layout.notationChar ++ "' for object of type '"
    ++ typeName ++ "'")

/-- Writes a number in whole digits of a base, or as a character. -/
def integer (layout : Layout) (n : Nat) : Except Fault String := do
  if layout.precision.isSome then refuse "Precision not allowed in integer format specifier"
  if layout.positiveZero then
    refuse "Negative zero coercion (z) not allowed in integer format specifier"
  let inBase := fun (base : Nat) (lead : List Char) =>
    layout.assemble (if layout.alternate then lead else []) (Nat.toDigits base n) []
  match layout.notationChar with
  | 'c' =>
    if layout.sign.isSome then refuse "Sign not allowed with integer format specifier 'c'"
    if layout.alternate then
      refuse "Alternate form (#) not allowed with integer format specifier 'c'"
    return layout.padded [] [Char.ofNat n]
  | 'b' => return inBase 2 ['0', 'b']
  | 'o' => return inBase 8 ['0', 'o']
  | 'x' => return inBase 16 ['0', 'x']
  | 'X' =>
    return layout.assemble (if layout.alternate then ['0', 'X'] else [])
      ((Nat.toDigits 16 n).map Char.toUpper) []
  | _ => return inBase 10 []

/-- Writes a number as the layout text says. -/
def number (spec : String) (n : Nat) : Except Fault String := do
  if spec.isEmpty then return toString n
  let layout ← parse "int" '>' 'd' spec
  match layout.notationChar with
  | 'b' | 'c' | 'd' | 'o' | 'x' | 'X' | 'n' => layout.integer n
  | 'f' | 'F' => return layout.fixed n []
  | '%' => return layout.fixed (n * 100) ['%']
  | 'e' => return layout.scientific n 'e'
  | 'E' => return layout.scientific n 'E'
  | 'g' => return layout.general n 'e'
  | 'G' => return layout.general n 'E'
  | _ => layout.unknownNotation "int"

/-- Writes a text as the layout text says. -/
def text (spec : String) (s : String) : Except Fault String := do
  if spec.isEmpty then return s
  let layout ← parse "str" '<' 's' spec
  if layout.notationChar != 's' then layout.unknownNotation "str"
  match layout.sign with
  | some ' ' => refuse "Space not allowed in string format specifier"
  | some _ => refuse "Sign not allowed in string format specifier"
  | none => pure ()
  if layout.positiveZero then
    refuse "Negative zero coercion (z) not allowed in string format specifier"
  if layout.alternate then refuse "Alternate form (#) not allowed in string format specifier"
  if layout.align == '=' then refuse "'=' alignment not allowed in string format specifier"
  let shown := match layout.precision with
    | some p => s.toList.take p
    | none => s.toList
  return layout.padded [] shown

end Layout

end TenderQuery.Fallback
