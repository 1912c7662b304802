import TenderQuery.Json.Writer

/-!
# The audit chain

Every entry of the audit file carries the hash of the entry before it and its own hash, which covers all of
its other members. The hash is taken of the canonical text, so the order of members does not matter.

- `sealed` adds both hashes to an entry.
- `chainErrors` reads a chain in order and reports broken links and entries that their hash does not fit.
  After a fault it goes on from the hash that is written, so that one fault is reported once.

The hash function is a parameter.
-/
set_option autoImplicit false
namespace TenderQuery.Audit

abbrev Hash := String → String

def entryHash (hash : Hash) (entry : Json) : String := hash entry.canonical

def previousKey : String := "previous_hash"

def recordKey : String := "record_hash"

/-- The entry with the hash of its predecessor and its own. -/
def sealed (hash : Hash) (previous : Json) (entry : Json) : Json :=
  let chained := entry.put previousKey previous
  chained.put recordKey (.text (entryHash hash chained))

inductive ChainError where
  | broken (index : Nat) (expected found : Json)
  | mismatch (index : Nat)

def ChainError.message : ChainError → String
  | broken index expected found =>
    "Entry " ++ toString index ++ ": Chain broken - expected previous_hash " ++ expected.display
      ++ ", got " ++ found.display
  | mismatch index =>
    "Entry " ++ toString index ++ ": Hash mismatch - entry may have been tampered with"

/-- The link of an entry to the hash before it. -/
def linkErrors (index : Nat) (previous entry : Json) : List ChainError :=
  let found := entry.getD previousKey
  if found.equal previous then [] else [.broken index previous found]

/-- The fit of an entry to its own hash. -/
def hashErrors (hash : Hash) (index : Nat) (entry : Json) : List ChainError :=
  let expected := Json.text (entryHash hash (entry.erase recordKey))
  if (entry.getD recordKey).equal expected then [] else [.mismatch index]

/-- Errors of the entries from `index` on, `previous` being the hash written before them. -/
def chainErrorsFrom (hash : Hash) : Nat → Json → List Json → List ChainError
  | _, _, [] => []
  | index, previous, entry :: rest =>
    linkErrors index previous entry ++ hashErrors hash index entry
      ++ chainErrorsFrom hash (index + 1) (entry.getD recordKey) rest

def chainErrors (hash : Hash) (entries : List Json) : List ChainError :=
  chainErrorsFrom hash 0 .null entries

def isValidChain (hash : Hash) (entries : List Json) : Bool := (chainErrors hash entries).isEmpty

end TenderQuery.Audit
