import TenderQuery.Text.WordTable

/-!
# Words

- `isWord` holds of the characters that make up words: letters and numbers of any script, and the
  underscore. Combining marks are not among them.
- `startsWord` says that a text begins inside or with a word.
-/
set_option autoImplicit false
namespace TenderQuery.Text

def inRanges (ranges : List (Nat × Nat)) (n : Nat) : Bool :=
  ranges.any fun (first, last) => first ≤ n && n ≤ last

def isWord (c : Char) : Bool :=
  if c.toNat < 128 then c.isAlphanum || c == '_' else inRanges wordRanges c.toNat

def startsWord : List Char → Bool
  | [] => false
  | c :: _ => isWord c

end TenderQuery.Text
