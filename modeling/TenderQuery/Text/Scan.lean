import TenderQuery.Text.Blank
import TenderQuery.Text.Fold

/-!
# Searching a text

A matcher takes what stands at a place of the text and gives what is left after the match.

- `scan` finds the first place where a matcher applies. It threads a state through the characters it
  passes, so that the matcher knows what stands before its place.
- `search` knows whether the character before is part of a word; `searchTopLevel` also knows the number
  of parentheses that are open and looks only where there are none.
- `word p` matches `p` as a whole word, without regard to case.
-/
set_option autoImplicit false
namespace TenderQuery.Text

abbrev Matcher := List Char → Option (List Char)

/-- The first place where `p` applies: the text before it and the answer of `p`. -/
def scan {σ α : Type} (step : σ → Char → σ) (p : σ → List Char → Option α) :
    σ → List Char → Option (List Char × α)
  | state, [] => (p state []).map fun a => ([], a)
  | state, c :: r =>
    match p state (c :: r) with
    | some a => some ([], a)
    | none => (scan step p (step state c) r).map fun (before, a) => (c :: before, a)

/-- Searches for a match that starts where a word can start. -/
def search {α : Type} (p : List Char → Option α) (s : List Char) : Option (List Char × α) :=
  scan (fun _ c => isWord c) (fun afterWord t => if afterWord then none else p t) false s

def occurs {α : Type} (p : List Char → Option α) (s : List Char) : Bool := (search p s).isSome

/-- What stands before a place: whether it is part of a word, and how many parentheses are open. -/
structure Position where
  afterWord : Bool
  depth : Nat

def Position.next (place : Position) (c : Char) : Position where
  afterWord := isWord c
  depth := if c = '(' then place.depth + 1 else if c = ')' then place.depth - 1 else place.depth

/-- Searches as `search` does, and only outside parentheses. -/
def searchTopLevel {α : Type} (p : List Char → Option α) (s : List Char) : Option (List Char × α) :=
  scan Position.next (fun place t => if place.afterWord || place.depth != 0 then none else p t)
    ⟨false, 0⟩ s

/-- Finds the first occurrence of a phrase, inside words too, without regard to case. -/
def searchPhrase (phrase : List Char) (s : List Char) : Option (List Char × List Char) :=
  scan (fun _ _ => ()) (fun _ t => dropFold phrase t) () s

/-! ## Matchers -/

/-- Matches nothing, where no word goes on. -/
def wordEnd : Matcher := fun s => if startsWord s then none else some s

def someBlanks : Matcher
  | [] => none
  | c :: r => if isBlank c then some (trimStart r) else none

def word (pattern : String) : Matcher := fun s => (dropFold pattern.toList s).bind wordEnd

def oneOfWords (patterns : List String) : Matcher := fun s => patterns.findSome? fun p => word p s

/-- Two words with blanks between them. -/
def wordPair (first second : String) : Matcher := fun s => do
  let s ← dropFold first.toList s
  let s ← someBlanks s
  word second s

/-- The part of `s` that a match consumed, when `rest` is left. -/
def consumed (s rest : List Char) : List Char := s.take (s.length - rest.length)

/-- Some substring of `s` equals `part`, letter for letter. -/
def contains (part : List Char) : List Char → Bool
  | [] => part.isEmpty
  | c :: r => part.isPrefixOf (c :: r) || contains part r

def containsString (part s : String) : Bool := contains part.toList s.toList

end TenderQuery.Text
