import TenderQuery.Text.CaseTable
import TenderQuery.Text.Word

/-!
# Upper and lower case

- `simpleLower` maps one letter to one lower case letter.
- `lower` is the full lower case of a text: U+0130 becomes two characters, and a capital sigma that ends
  a word becomes the final form.
- `upper` is the full upper case of a text, in which one letter may become several.
-/
set_option autoImplicit false
namespace TenderQuery.Text

/-- The shift of the first run that holds the code point, or the code point itself. -/
def mapByRuns (runs : List CaseRun) (n : Nat) : Nat :=
  match runs.find? fun run => run.first ≤ n && n ≤ run.last && (n - run.first) % run.step == 0 with
  | some run => (Int.ofNat n + run.shift).toNat
  | none => n

def simpleLower (c : Char) : Char :=
  if c.toNat < 128 then c.toLower else Char.ofNat (mapByRuns lowerRuns c.toNat)

def upperChar (c : Char) : List Char :=
  if c.toNat < 128 then [c.toUpper]
  else match upperExpansions.lookup c.toNat with
    | some codes => codes.map Char.ofNat
    | none => [Char.ofNat (mapByRuns upperRuns c.toNat)]

def upper (s : List Char) : List Char := s.flatMap upperChar

def lowerChar (c : Char) : List Char :=
  if c.toNat = 0x130 then ['i', Char.ofNat 0x307] else [simpleLower c]

def isCaseIgnorable (c : Char) : Bool := inRanges caseIgnorableRanges c.toNat

def isCasedLetter (c : Char) : Bool := inRanges casedRanges c.toNat

/-- A cased letter comes next, case-ignorable characters apart. -/
def casedNext : List Char → Bool
  | [] => false
  | c :: r => if isCaseIgnorable c then casedNext r else isCasedLetter c

/-- Lower case of the rest of a text; `afterCased` says that a cased letter stands before it. -/
def lowerFrom : Bool → List Char → List Char
  | _, [] => []
  | afterCased, c :: r =>
    if c.toNat < 128 then
      c.toLower :: lowerFrom (if isCaseIgnorable c then afterCased else c.isAlpha) r
    else if c.toNat = 0x3A3 then
      Char.ofNat (if afterCased && !casedNext r then 0x3C2 else 0x3C3) :: lowerFrom true r
    else
      lowerChar c ++ lowerFrom (if isCaseIgnorable c then afterCased else isCasedLetter c) r

def lower (s : List Char) : List Char := lowerFrom false s

def lowerString (s : String) : String := String.ofList (lower s.toList)

def upperString (s : String) : String := String.ofList (upper s.toList)

end TenderQuery.Text
