/-!
# Binary floating point with 64 bits

A finite value is a significand times a power of two, counted in units of the smallest positive value
2^-1074. Every operation computes the exact result in integers and rounds once.

- `Binary64.nearest` is that rounding: to the nearest value, a tie to the even significand, to infinity
  beyond the largest one.
- `Binary64.ofDecimal` reads a decimal number, `ofInt` an integer; addition, subtraction, multiplication,
  division and comparison follow.
- `Binary64.roundToPlaces` keeps a number of decimal places, judged by the exact value.
-/
set_option autoImplicit false
namespace TenderQuery.Decimal

/-- The quotient rounded to the nearest integer, a tie to the even one. -/
def divHalfEven (num den : Nat) : Nat :=
  let q := num / den
  let r := num % den
  if 2 * r > den || (2 * r == den && q % 2 == 1) then q + 1 else q

/-- The significand is as large as its 53 bits allow, unless the scale is the smallest. -/
def Canonical (significand scale : Nat) : Prop :=
  scale ≤ 2045 ∧ significand < Nat.pow 2 53 ∧ (scale = 0 ∨ Nat.pow 2 52 ≤ significand)

instance (significand scale : Nat) : Decidable (Canonical significand scale) :=
  inferInstanceAs (Decidable (_ ∧ _ ∧ _))

inductive Binary64 where
  | nan
  | infinity (negative : Bool)
  | finite (negative : Bool) (significand scale : Nat) (canonical : Canonical significand scale)
  deriving DecidableEq

namespace Binary64

def zero (negative : Bool) : Binary64 := finite negative 0 0 (by decide)

instance : Inhabited Binary64 := ⟨zero false⟩

/-- The value with these parts; one too large is infinite. -/
def ofParts (negative : Bool) (significand scale : Nat) : Binary64 :=
  if h : Canonical significand scale then finite negative significand scale h else infinity negative

/-- The scale at which a whole number of units has 53 bits. -/
def scaleOf (units : Nat) : Nat := if units < Nat.pow 2 53 then 0 else Nat.log2 units - 52

/-- The value nearest to `num / den`. -/
def nearest (negative : Bool) (num den : Nat) : Binary64 :=
  let units := num * Nat.pow 2 1074
  let scale := scaleOf (units / den)
  let significand := divHalfEven units (den * Nat.pow 2 scale)
  if significand = Nat.pow 2 53 then ofParts negative (Nat.pow 2 52) (scale + 1)
  else ofParts negative significand scale

/-! ## Reading numbers -/

def ofInt (n : Int) : Binary64 := nearest (n < 0) n.natAbs 1

/-- The value nearest to `digits * 10 ^ exponent`. Exponents far outside the range are settled first. -/
def ofDecimal (negative : Bool) (digits : Nat) (exponent : Int) : Binary64 :=
  if digits = 0 then zero negative
  else if 400 < exponent then infinity negative
  else if exponent + (Nat.log2 digits : Int) < -1200 then zero negative
  else if 0 ≤ exponent then nearest negative (digits * Nat.pow 10 exponent.toNat) 1
  else nearest negative digits (Nat.pow 10 (-exponent).toNat)

/-! ## Exact values -/

/-- The distance from zero in units of 2^-1074. -/
def magnitude : Binary64 → Nat
  | finite _ significand scale _ => significand * Nat.pow 2 scale
  | _ => 0

def isNegative : Binary64 → Bool
  | nan => false
  | infinity negative => negative
  | finite negative _ _ _ => negative

def units (x : Binary64) : Int := if x.isNegative then -(x.magnitude : Int) else x.magnitude

def isFinite : Binary64 → Bool
  | finite .. => true
  | _ => false

/-! ## Arithmetic -/

def neg : Binary64 → Binary64
  | nan => nan
  | infinity negative => infinity (!negative)
  | finite negative significand scale h => finite (!negative) significand scale h

/-- A sum of opposite values is positive zero; zeros of one sign keep it. -/
def add : Binary64 → Binary64 → Binary64
  | nan, _ | _, nan => nan
  | infinity a, infinity b => if a = b then infinity a else nan
  | infinity a, _ => infinity a
  | _, infinity b => infinity b
  | x, y =>
    let sum := x.units + y.units
    if sum = 0 then zero (x.isNegative && y.isNegative)
    else nearest (sum < 0) sum.natAbs (Nat.pow 2 1074)

def sub (x y : Binary64) : Binary64 := add x y.neg

def isZero (x : Binary64) : Bool := x.isFinite && x.magnitude == 0

def mul : Binary64 → Binary64 → Binary64
  | nan, _ | _, nan => nan
  | infinity a, y => if y.isZero then nan else infinity (a != y.isNegative)
  | x, infinity b => if x.isZero then nan else infinity (x.isNegative != b)
  | x, y => nearest (x.isNegative != y.isNegative) (x.magnitude * y.magnitude) (Nat.pow 2 2148)

/-- Division; by zero it is infinite, and zero by zero is no number. -/
def div : Binary64 → Binary64 → Binary64
  | nan, _ | _, nan => nan
  | infinity _, infinity _ => nan
  | infinity a, y => infinity (a != y.isNegative)
  | x, infinity b => zero (x.isNegative != b)
  | x, y =>
    if y.magnitude = 0 then
      if x.magnitude = 0 then nan else infinity (x.isNegative != y.isNegative)
    else nearest (x.isNegative != y.isNegative) x.magnitude y.magnitude

/-! ## Comparison -/

/-- Numerical order; no number is before or after itself, and nan is before nothing. -/
def lt : Binary64 → Binary64 → Bool
  | nan, _ | _, nan => false
  | infinity a, infinity b => a && !b
  | infinity a, _ => a
  | _, infinity b => !b
  | x, y => x.units < y.units

/-- Numerical equality: both zeros are equal, and nan equals nothing. -/
def equal : Binary64 → Binary64 → Bool
  | nan, _ | _, nan => false
  | infinity a, infinity b => a == b
  | infinity _, _ | _, infinity _ => false
  | x, y => x.units == y.units

/-- The integer that the value is, if it is one. -/
def toInt? (x : Binary64) : Option Int :=
  if x.isFinite && x.units % Int.pow 2 1074 == 0 then some (x.units / Int.pow 2 1074) else none

/-- The value rounded to a number of decimal places; infinities and nan stay as they are. -/
def roundToPlaces (places : Nat) (x : Binary64) : Binary64 :=
  if x.isFinite then
    ofDecimal x.isNegative (divHalfEven (x.magnitude * Nat.pow 10 places) (Nat.pow 2 1074)) (-places)
  else x

end Binary64

end TenderQuery.Decimal
