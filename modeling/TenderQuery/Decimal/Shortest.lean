import TenderQuery.Decimal.Binary64

/-!
# The shortest decimal text of a binary number

- `shortestDigits` is a decimal number with as few digits as read back to the value, and the nearest of
  those. Its candidates with `n` digits are the two neighbours of the value with `n` digits.
- `Binary64.text` writes it: positional from 0.0001 up to sixteen whole digits, always with a fraction, and
  with an exponent of at least two digits beyond.
-/
set_option autoImplicit false
namespace TenderQuery.Decimal

/-- The decimal number `digits * 10 ^ exponent`. -/
structure Scaled where
  digits : Nat
  exponent : Int
  deriving DecidableEq, Repr

/-- The exact decimal expansion of a distance from zero. -/
def exactDigits (magnitude : Nat) : Scaled := ⟨magnitude * Nat.pow 5 1074, -1074⟩

/-- Cuts the last `dropped` digits off a number: its two neighbours on the coarser grid, the nearer one
first and of two equally near the even one. -/
def neighbours (exact : Scaled) (dropped : Nat) : List Scaled :=
  let unit := Nat.pow 10 dropped
  let q := exact.digits / unit
  let r := exact.digits % unit
  let grid := fun n => Scaled.mk n (exact.exponent + dropped)
  if r = 0 then [grid q]
  else if 2 * r > unit || (2 * r == unit && q % 2 == 1) then [grid (q + 1), grid q]
  else [grid q, grid (q + 1)]

/-- The first of the neighbours with one digit, two digits and so on that reads back as `x`. -/
def shortestFrom (x : Binary64) (exact : Scaled) (size : Nat) : Nat → Scaled
  | 0 => exact
  | remaining + 1 =>
    let dropped := size - (17 - remaining)
    match (neighbours exact dropped).find? fun s =>
      Binary64.ofDecimal x.isNegative s.digits s.exponent == x with
    | some s => s
    | none => shortestFrom x exact size remaining

def shortestDigits (x : Binary64) : Scaled :=
  if x.magnitude = 0 then ⟨0, 0⟩
  else
    let exact := exactDigits x.magnitude
    shortestFrom x exact (Nat.toDigits 10 exact.digits).length 17

/-! ## Text -/

def zeros (n : Nat) : List Char := List.replicate n '0'

/-- Decimal digits with the point behind the first `whole` of them. -/
def positional (digits : List Char) (whole : Int) : List Char :=
  if whole ≤ 0 then '0' :: '.' :: zeros (-whole).toNat ++ digits
  else
    let whole := whole.toNat
    if digits.length ≤ whole then digits ++ zeros (whole - digits.length) ++ ['.', '0']
    else digits.take whole ++ '.' :: digits.drop whole

/-- An exponent with its sign and at least two digits. -/
def exponentText (exponent : Int) : List Char :=
  let digits := Nat.toDigits 10 exponent.natAbs
  'e' :: (if exponent < 0 then '-' else '+') :: zeros (2 - digits.length) ++ digits

def exponential (digits : List Char) (exponent : Int) : List Char :=
  match digits with
  | [] => []
  | [d] => d :: exponentText exponent
  | d :: fraction => d :: '.' :: fraction ++ exponentText exponent

def dropTrailingZeros (digits : List Char) : List Char :=
  (digits.reverse.dropWhile (· == '0')).reverse

/-- The text of a decimal number that is not negative. -/
def Scaled.text (s : Scaled) : List Char :=
  let written := Nat.toDigits 10 s.digits
  let digits := dropTrailingZeros written
  let whole := (written.length : Int) + s.exponent
  if -4 < whole ∧ whole ≤ 16 then positional digits whole else exponential digits (whole - 1)

/-- The text of a value, with the words to use for nan and infinity. -/
def Binary64.textWith (nanText infinityText : String) (x : Binary64) : String :=
  let sign := if x.isNegative then ['-'] else []
  match x with
  | nan => nanText
  | infinity _ => String.ofList (sign ++ infinityText.toList)
  | finite .. => String.ofList (sign ++ (shortestDigits x).text)

def Binary64.text (x : Binary64) : String := x.textWith "nan" "inf"

end TenderQuery.Decimal
