import TenderQuery.Text.Case

/-!
# Matching without regard to case

- `sameLetter p c` says that the letter `c` of a text matches the letter `p` of a pattern. Letters are
  compared one by one by their simple lower case; `foldClasses` adds the few lower case letters that are
  forms of one another, such as the long s and the dotless i.
- `dropFold p s` removes the pattern `p` from the front of `s`.
-/
set_option autoImplicit false
namespace TenderQuery.Text

def isCased (c : Char) : Bool := simpleLower c != c || upperChar c != [c]

def foldClass (c : Char) : List Nat :=
  c.toNat :: (foldClasses.lookup c.toNat).getD []

def sameLetter (p c : Char) : Bool :=
  p == c || (isCased p && (foldClass (simpleLower p)).contains (simpleLower c).toNat)

def dropFold : List Char → List Char → Option (List Char)
  | [], s => some s
  | _ :: _, [] => none
  | p :: pattern, c :: r => if sameLetter p c then dropFold pattern r else none

theorem dropFold_length_le {pattern s rest : List Char} (h : dropFold pattern s = some rest) :
    rest.length ≤ s.length := by
  induction pattern generalizing s with
  | nil => cases h; exact Nat.le_refl _
  | cons p pattern ih =>
    cases s with
    | nil => simp [dropFold] at h
    | cons c r =>
      simp only [dropFold] at h
      split at h
      · exact Nat.le_succ_of_le (ih h)
      · cases h

end TenderQuery.Text
