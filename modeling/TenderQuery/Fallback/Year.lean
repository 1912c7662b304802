import TenderQuery.Text.Digit
import TenderQuery.Text.Scan

/-!
# The year in a question

`year? s` is the number written by the leftmost word that consists of 19 or 20 and two decimal digits, of
any script.
-/
set_option autoImplicit false
namespace TenderQuery.Fallback
open TenderQuery.Text

/-- A year that fills the word it stands in. -/
def readYear : List Char → Option Nat
  | a :: b :: c :: d :: r =>
    if (a == '1' && b == '9' || a == '2' && b == '0') && !startsWord r then digitsValue? [a, b, c, d]
    else none
  | _ => none

def year? (question : List Char) : Option Nat := (search readYear question).map (·.2)

end TenderQuery.Fallback
