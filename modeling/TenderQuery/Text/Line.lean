/-!
# Lines

- `lines` cuts a text after every line boundary and drops the boundaries: line feed, carriage return, both
  together, vertical tab, form feed, U+001C to U+001E, U+0085, U+2028 and U+2029. A boundary at the end of
  the text starts no further line.
- `splitAtNewlines` cuts at line feeds only and keeps the empty line after the last one.
-/
set_option autoImplicit false
namespace TenderQuery.Text

def isLineBoundary (c : Char) : Bool :=
  let n := c.toNat
  (10 ≤ n && n ≤ 13) || (28 ≤ n && n ≤ 30) || n == 133 || n == 8232 || n == 8233

/-- Puts a character at the front of the first line. -/
def addToFirstLine (c : Char) : List (List Char) → List (List Char)
  | [] => [[c]]
  | line :: rest => (c :: line) :: rest

def lines : List Char → List (List Char)
  | [] => []
  | '\r' :: '\n' :: r => [] :: lines r
  | c :: r => if isLineBoundary c then [] :: lines r else addToFirstLine c (lines r)

def splitAtNewlines : List Char → List (List Char)
  | [] => [[]]
  | c :: r => if c = '\n' then [] :: splitAtNewlines r else addToFirstLine c (splitAtNewlines r)

end TenderQuery.Text
