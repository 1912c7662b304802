/-!
# String literals and parentheses

A literal runs from a single quote to the next one that is not doubled. When a doubled quote leaves the
literal without an end, the first of the two quotes ends it; a quote without a later quote opens nothing.

- `maskLiterals` writes spaces for the characters of all literals, so that positions stay the same.
- `parenthesesBalanced` counts parentheses outside literals.
-/
set_option autoImplicit false
namespace TenderQuery.Sql

/-- What follows a literal whose opening quote has been read. -/
def afterLiteral : List Char → Option (List Char)
  | [] => none
  | '\'' :: '\'' :: r =>
    match afterLiteral r with
    | some rest => some rest
    | none => some ('\'' :: r)
  | c :: r => if c = '\'' then some r else afterLiteral r

/-- Masks the next `masked` characters and the literals behind them. -/
def maskFrom : Nat → List Char → List Char
  | _, [] => []
  | masked + 1, _ :: r => ' ' :: maskFrom masked r
  | 0, c :: r =>
    if c = '\'' then
      match afterLiteral r with
      | some rest => ' ' :: maskFrom (r.length - rest.length) r
      | none => c :: maskFrom 0 r
    else c :: maskFrom 0 r

def maskLiterals (s : List Char) : List Char := maskFrom 0 s

/-- Every closing parenthesis has one to close, and all are closed; `depth` are open before. -/
def closesFrom : Nat → List Char → Bool
  | depth, [] => depth == 0
  | depth, c :: r =>
    if c = '(' then closesFrom (depth + 1) r
    else if c = ')' then
      match depth with
      | 0 => false
      | d + 1 => closesFrom d r
    else closesFrom depth r

def parenthesesBalanced (s : List Char) : Bool := closesFrom 0 (maskLiterals s)

end TenderQuery.Sql
