import TenderQuery.Audit.Chain
import TenderQuery.Fault
import TenderQuery.Json.Reader
import TenderQuery.Text.Blank

/-!
# The audit file

A journal is a file of lines, one sealed entry each, together with the hash that the next entry links to.

- `Journal.write` appends an entry, unless a whole number in it is too long to be written.
- `Journal.openLines` starts from the lines that are there: the next entry links to the hash of the last
  line that is not blank. That line has to hold an object.
- `Journal.check` reads all lines that are not blank and gives the errors of their chain; each line has to
  hold an object.
-/
set_option autoImplicit false
namespace TenderQuery.Audit

structure Journal where
  lines : List String := []
  lastHash : Json := .null

/-- Why a line is no entry. -/
inductive LineFault where
  | notJson
  | notObject
  deriving DecidableEq, Repr

namespace Journal

def isBlankLine (line : String) : Bool := Text.isEmptyOrBlank line.toList

def tooLong (digits : Nat) : Fault :=
  ⟨.badValue, "Exceeds the limit (" ++ toString digits
    ++ " digits) for integer string conversion; use sys.set_int_max_str_digits() to increase the limit"⟩

def write (hash : Hash) (limit : Json.DigitLimit) (journal : Journal) (entry : Json) : Except Fault Journal :=
  let chained := sealed hash journal.lastHash entry
  match chained.excess? limit with
  | some digits => .error (tooLong digits)
  | none => .ok ⟨journal.lines ++ [chained.line], chained.getD recordKey⟩

def writtenLines (lines : List String) : List String := lines.filter fun line => !isBlankLine line

/-- The hash that the last written line carries, null if there is no line. -/
def lastHashOf (limit : Json.DigitLimit) (lines : List String) : Except LineFault Json :=
  match (writtenLines lines).getLast? with
  | none => .ok .null
  | some line => match Json.readWithin? limit line with
    | none => .error .notJson
    | some (.object members) => .ok ((Json.object members).getD recordKey)
    | some _ => .error .notObject

def openLines (limit : Json.DigitLimit) (lines : List String) : Except LineFault Journal :=
  (lastHashOf limit lines).map fun last => ⟨lines, last⟩

def entries? (limit : Json.DigitLimit) (lines : List String) : Option (List Json) :=
  (writtenLines lines).mapM (Json.readWithin? limit)

/-- The errors of a chain of values, all of which have to be objects. -/
def checkEntries (hash : Hash) (entries : List Json) : Except LineFault (List ChainError) :=
  if entries.all fun entry => entry.members?.isSome then .ok (chainErrors hash entries)
  else .error .notObject

def check (hash : Hash) (limit : Json.DigitLimit) (lines : List String) : Except LineFault (List ChainError) :=
  match entries? limit lines with
  | none => .error .notJson
  | some entries => checkEntries hash entries

end Journal

end TenderQuery.Audit
