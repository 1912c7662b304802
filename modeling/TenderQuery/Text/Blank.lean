/-!
# Blank characters

- `isBlank` holds of white space: tab to carriage return, the separators U+001C to U+001F, the space,
  U+0085, U+00A0 and the spaces and line separators beyond them. U+200B, U+FEFF and U+180E have width or
  meaning of their own and are not blank.
- `trimStart`, `trimEnd`, `trim` drop blanks at an end.
- `collapse` trims and writes one space for every run of blanks between two words.
-/
set_option autoImplicit false
namespace TenderQuery.Text

def isBlank (c : Char) : Bool :=
  let n := c.toNat
  (9 ≤ n && n ≤ 13) || (28 ≤ n && n ≤ 32) || n == 133 || n == 160 || n == 5760
    || (8192 ≤ n && n ≤ 8202) || n == 8232 || n == 8233 || n == 8239 || n == 8287 || n == 12288

def trimStart (s : List Char) : List Char := s.dropWhile isBlank

def trimEnd (s : List Char) : List Char := (s.reverse.dropWhile isBlank).reverse

def trim (s : List Char) : List Char := trimEnd (trimStart s)

/-- One space for each run of blanks that a word follows; `gap` says that such a run has begun. -/
def spaced : Bool → List Char → List Char
  | _, [] => []
  | gap, c :: r =>
    if isBlank c then spaced true r
    else if gap then ' ' :: c :: spaced false r
    else c :: spaced false r

/-- The words of a text with single spaces between them. -/
def collapse (s : List Char) : List Char := spaced false (trimStart s)

theorem trimStart_length_le (s : List Char) : (trimStart s).length ≤ s.length :=
  (List.dropWhile_suffix isBlank).length_le

/-- A text of blanks only, or of nothing. -/
def isEmptyOrBlank (s : List Char) : Bool := s.all isBlank

def trimString (s : String) : String := String.ofList (trim s.toList)

end TenderQuery.Text
