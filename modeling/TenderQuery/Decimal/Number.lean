import TenderQuery.Decimal.Shortest

/-!
# Numbers

A number is a whole number of any size or a binary number. Whole numbers stay whole under addition,
subtraction and multiplication; once a binary number takes part, or in a division, the result is binary.
Whole numbers are compared with binary ones by their exact values.
-/
set_option autoImplicit false
namespace TenderQuery
open Decimal (Binary64)

inductive Number where
  | whole (n : Int)
  | real (x : Binary64)
  deriving DecidableEq, Inhabited

namespace Number

/-- The value as a binary number, rounded if it has to be. -/
def toReal : Number → Binary64
  | whole n => .ofInt n
  | real x => x

/-- A whole number equals a binary one only if the binary one is that integer. -/
def equal : Number → Number → Bool
  | whole a, whole b => a == b
  | real x, real y => x.equal y
  | whole a, real y => y.toInt? == some a
  | real x, whole b => x.toInt? == some b

/-- The exact value in units of 2^-1074, if there is one. -/
def units? : Number → Option Int
  | whole n => some (n * Int.pow 2 1074)
  | real x => if x.isFinite then some x.units else none

/-- Numerical order by exact values. An infinite value lies on the same side of zero and of every other number. -/
def lt (a b : Number) : Bool :=
  match a.units?, b.units? with
  | some m, some n => m < n
  | some _, none => Binary64.lt (.zero false) b.toReal
  | none, some _ => a.toReal.lt (.zero false)
  | none, none => a.toReal.lt b.toReal

def le (a b : Number) : Bool := lt a b || equal a b

def add : Number → Number → Number
  | whole a, whole b => whole (a + b)
  | a, b => real (a.toReal.add b.toReal)

def sub : Number → Number → Number
  | whole a, whole b => whole (a - b)
  | a, b => real (a.toReal.sub b.toReal)

def mul : Number → Number → Number
  | whole a, whole b => whole (a * b)
  | a, b => real (a.toReal.mul b.toReal)

/-- The quotient by a whole number that is not zero. -/
def divNat (a : Number) (n : Nat) : Binary64 :=
  match a with
  | whole k => .nearest (k < 0) k.natAbs n
  | real x => x.div (.ofInt n)

def roundToPlaces (places : Nat) : Number → Number
  | whole n => whole n
  | real x => real (x.roundToPlaces places)

def isZero : Number → Bool
  | whole n => n == 0
  | real x => x.isZero

def text : Number → String
  | whole n => toString n
  | real x => x.text

instance : Add Number := ⟨add⟩
instance : Sub Number := ⟨sub⟩
instance : LT Number := ⟨fun a b => a.lt b = true⟩
instance : DecidableLT Number := fun a b => inferInstanceAs (Decidable (a.lt b = true))

end Number

end TenderQuery
