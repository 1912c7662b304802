import TenderQuery.Text.DigitTable

/-!
# Decimal digits of all scripts

`digitValue?` reads one digit and `digitsValue?` a non-empty run of digits, most significant first. Digits
of different scripts may be mixed.
-/
set_option autoImplicit false
namespace TenderQuery.Text

def digitValue? (c : Char) : Option Nat :=
  let n := c.toNat
  if n < 128 then (if c.isDigit then some (n - 48) else none)
  else (digitZeros.find? fun start => start ≤ n && n < start + 10).map (n - ·)

def isDecimalDigit (c : Char) : Bool := (digitValue? c).isSome

/-- The number that the digits write after those already read as `value`. -/
def digitsValueFrom : Nat → List Char → Option Nat
  | value, [] => some value
  | value, c :: r => (digitValue? c).bind fun d => digitsValueFrom (value * 10 + d) r

def digitsValue? : List Char → Option Nat
  | [] => none
  | c :: r => digitsValueFrom 0 (c :: r)

end TenderQuery.Text
