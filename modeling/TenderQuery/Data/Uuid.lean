import TenderQuery.Json.Reader
import TenderQuery.Text.Quoted

/-!
# Universally unique identifiers

An identifier is 32 hexadecimal digits, written in groups of 8, 4, 4, 4 and 12. `Uuid.ofText?` reads them
in any case, with hyphens anywhere, in braces or behind a `urn:uuid:` mark.
-/
set_option autoImplicit false
namespace TenderQuery.Data
open TenderQuery.Text

structure Uuid where
  value : Nat
  deriving DecidableEq, Repr

namespace Uuid

def isBrace (c : Char) : Bool := c == '\x7b' || c == '\x7d'

def ofText? (s : String) : Option Uuid := do
  let s := ((s.replace "urn:" "").replace "uuid:" "").toList
  let s := ((s.dropWhile isBrace).reverse.dropWhile isBrace).reverse.filter (· != '-')
  let digits ← s.mapM Json.hexValue?
  if digits.length = 32 then some ⟨digits.foldl (fun n d => n * 16 + d) 0⟩ else none

def text (u : Uuid) : String :=
  let digits := hexDigits 32 u.value
  let part := fun start count => String.ofList ((digits.drop start).take count)
  "-".intercalate [part 0 8, part 8 4, part 12 4, part 16 4, part 20 12]

end Uuid

end TenderQuery.Data
