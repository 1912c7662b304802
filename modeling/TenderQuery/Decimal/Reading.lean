import TenderQuery.Decimal.Binary64
import TenderQuery.Text.Digit

/-!
# Reading decimal numbers

A number is written as whole digits, a fraction behind a point and an exponent behind an `e`, all in ASCII
digits; `readUnsigned` takes one from the front of a text and keeps its three parts.
-/
set_option autoImplicit false
namespace TenderQuery.Decimal

/-- The parts of a number as written, without a sign. -/
structure Written where
  whole : List Char
  fraction : Option (List Char)
  exponent : Option Int
  deriving DecidableEq, Repr

def digitsToNat (digits : List Char) : Nat := digits.foldl (fun n c => n * 10 + (c.toNat - 48)) 0

def takeDigits (s : List Char) : List Char × List Char := (s.takeWhile Char.isDigit, s.dropWhile Char.isDigit)

/-- A point with the digits behind it. -/
def readFraction : List Char → Option (List Char) × List Char
  | '.' :: r => let (digits, rest) := takeDigits r; (some digits, rest)
  | r => (none, r)

/-- A sign, plus or minus, if there is one; true for minus. -/
def readSign : List Char → Bool × List Char
  | '-' :: r => (true, r)
  | '+' :: r => (false, r)
  | r => (false, r)

/-- An exponent mark with at least one digit. -/
def readExponent : List Char → Option Int × List Char
  | [] => (none, [])
  | c :: r =>
    if c = 'e' || c = 'E' then
      let (negative, s) := readSign r
      match takeDigits s with
      | ([], _) => (none, c :: r)
      | (digits, rest) =>
        let n := digitsToNat digits
        (some (if negative then -(n : Int) else n), rest)
    else (none, c :: r)

def readUnsigned (s : List Char) : Written × List Char :=
  let (whole, s) := takeDigits s
  let (fraction, s) := readFraction s
  let (exponent, s) := readExponent s
  (⟨whole, fraction, exponent⟩, s)

def Written.toBinary64 (w : Written) (negative : Bool) : Binary64 :=
  let fraction := w.fraction.getD []
  Binary64.ofDecimal negative (digitsToNat (w.whole ++ fraction))
    (w.exponent.getD 0 - (fraction.length : Int))

/-- At least one digit stands before or after the point. -/
def Written.hasDigits (w : Written) : Bool := !(w.whole.isEmpty && (w.fraction.getD []).isEmpty)

end TenderQuery.Decimal
