import TenderQuery.Decimal.Reading
import TenderQuery.Decimal.Shortest

/-!
# Exact decimal numbers

A decimal number keeps the digits it was written with, so that 1.50 and 1.5 differ in their text.

- `Exact.ofText?` reads `digits.digitsEexponent` with a sign, or the names of infinity and nan.
- `Exact.text` writes all digits, with an exponent where positional notation would have to invent zeros.
- `Exact.toBinary64` is the nearest binary number.
-/
set_option autoImplicit false
namespace TenderQuery.Decimal

inductive Exact where
  | number (negative : Bool) (digits : Nat) (exponent : Int)
  | infinity (negative : Bool)
  | nan
  deriving DecidableEq, Repr

namespace Exact

def ofText? (s : String) : Option Exact :=
  let (negative, body) := readSign s.toList
  match String.ofList (body.map Char.toLower) with
  | "inf" | "infinity" => some (infinity negative)
  | "nan" => some nan
  | _ =>
    let (w, rest) := readUnsigned body
    if w.hasDigits && rest.isEmpty then
      let fraction := w.fraction.getD []
      some (number negative (digitsToNat (w.whole ++ fraction))
        (w.exponent.getD 0 - (fraction.length : Int)))
    else none

def toBinary64 : Exact → Binary64
  | number negative digits exponent => .ofDecimal negative digits exponent
  | infinity negative => .infinity negative
  | nan => .nan

/-- An exponent with its sign. -/
def signed (n : Int) : String := (if n < 0 then "-" else "+") ++ toString n.natAbs

def text : Exact → String
  | nan => "NaN"
  | infinity negative => (if negative then "-" else "") ++ "Infinity"
  | number negative n exponent =>
    let digits := Nat.toDigits 10 n
    let left := exponent + (digits.length : Int)
    let plain := exponent ≤ 0 ∧ -6 < left
    let whole : Int := if plain then left else 1
    let body :=
      if whole ≤ 0 then '0' :: '.' :: zeros (-whole).toNat ++ digits
      else if digits.length ≤ whole.toNat then digits ++ zeros (whole.toNat - digits.length)
      else digits.take whole.toNat ++ '.' :: digits.drop whole.toNat
    (if negative then "-" else "") ++ String.ofList body
      ++ (if left = whole then "" else "E" ++ signed (left - whole))

end Exact

end TenderQuery.Decimal
