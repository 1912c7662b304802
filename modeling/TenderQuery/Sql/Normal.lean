import TenderQuery.Text.Scan

/-!
# The statement inside a model's answer

- `dropFences` removes code fences with their language tag, opening and closing ones alike.
- `tidy` is one round of cleaning: fences and backticks, blanks, one lead-in of each kind, and everything
  from a trailing explanation on.
- `normalize` repeats `tidy` for as long as it shortens the text, since removing one artefact can uncover
  another.
-/
set_option autoImplicit false
namespace TenderQuery.Sql
open TenderQuery.Text

/-! ## Fences -/

def isInlineBlank (c : Char) : Bool := c == ' ' || c == '\t'

def isTagChar (c : Char) : Bool := isWord c || c == '+' || c == '.' || c == '-'

def startsLineEnd : List Char → Bool
  | [] => false
  | c :: _ => c == '\r' || c == '\n'

/-- What follows a tag of any language that ends its line; the line end itself is kept. -/
def afterLineTag (s : List Char) : Option (List Char) :=
  let start := s.dropWhile isInlineBlank
  let rest := (start.dropWhile isTagChar).dropWhile isInlineBlank
  if (start.takeWhile isTagChar).isEmpty then none
  else if startsLineEnd rest then some rest
  else none

def sqlTags : List String := ["sql", "tsql", "t-sql", "mssql", "sqlserver"]

/-- What follows a tag of an SQL dialect, which the statement may follow on the same line. -/
def afterSqlTag (s : List Char) : Option (List Char) :=
  oneOfWords sqlTags (s.dropWhile isInlineBlank)

/-- What follows the tag of a fence, when `s` follows its three backticks. -/
def afterFence (s : List Char) : List Char :=
  match afterLineTag s with
  | some rest => rest
  | none => (afterSqlTag s).getD s

theorem afterLineTag_length_le {s rest : List Char} (h : afterLineTag s = some rest) :
    rest.length ≤ s.length := by
  simp only [afterLineTag] at h
  split at h
  · cases h
  · split at h
    · cases h
      exact Nat.le_trans (List.dropWhile_suffix _).length_le
        (Nat.le_trans (List.dropWhile_suffix _).length_le (List.dropWhile_suffix _).length_le)
    · cases h

theorem word_length_le {p : String} {s rest : List Char} (h : word p s = some rest) :
    rest.length ≤ s.length := by
  simp only [word, Option.bind_eq_some_iff, wordEnd] at h
  obtain ⟨t, ht, h⟩ := h
  split at h
  · cases h
  · cases h; exact dropFold_length_le ht

theorem afterSqlTag_length_le {s rest : List Char} (h : afterSqlTag s = some rest) :
    rest.length ≤ s.length := by
  simp only [afterSqlTag, oneOfWords] at h
  obtain ⟨p, _, hp⟩ := List.exists_of_findSome?_eq_some h
  exact Nat.le_trans (word_length_le hp) (List.dropWhile_suffix _).length_le

theorem afterFence_length_le (s : List Char) : (afterFence s).length ≤ s.length := by
  unfold afterFence
  split
  next rest h => exact afterLineTag_length_le h
  next =>
    cases h : afterSqlTag s with
    | none => exact Nat.le_refl _
    | some rest => exact afterSqlTag_length_le h

/-- Writes a space for every fence. -/
def dropFences : List Char → List Char
  | '\x60' :: '\x60' :: '\x60' :: r => ' ' :: dropFences (afterFence r)
  | c :: r => c :: dropFences r
  | [] => []
termination_by s => s.length
decreasing_by
  · have := afterFence_length_le r
    simp only [List.length_cons]; omega
  · simp only [List.length_cons]; omega

/-! ## Phrases around the statement -/

/-- The kinds of lead-in in the order in which they are removed, each with its spellings. -/
def leadIns : List (List String) :=
  [ ["here's the sql query:", "here's the query:", "here is the sql query:", "here is the query:"],
    ["the sql query is:", "the query is:"],
    ["sql query:"],
    ["query:"],
    ["sql:"] ]

/-- Drops one lead-in and the blanks after it. -/
def dropLeadIn (spellings : List String) (s : List Char) : List Char :=
  match spellings.findSome? fun p => dropFold p.toList s with
  | some rest => trimStart rest
  | none => s

/-- The phrases that open an explanation behind the statement. -/
def trailers : List String := ["this query will", "the above query", "this sql", "explanation:"]

/-- Cuts the text before the first occurrence of a trailer and the blanks in front of it. -/
def cutTrailer (phrase : String) (s : List Char) : List Char :=
  match searchPhrase phrase.toList s with
  | some (before, _) => trimEnd before
  | none => s

/-! ## Normal form -/

def isBacktick (c : Char) : Bool := c == '\x60'

def dropBackticks (s : List Char) : List Char := s.filter fun c => !isBacktick c

def tidy (s : List Char) : List Char :=
  let text := collapse (dropBackticks (dropFences s))
  let text := leadIns.foldl (fun t spellings => dropLeadIn spellings t) text
  trim (trailers.foldl (fun t phrase => cutTrailer phrase t) text)

/-- Tidies for as long as that shortens the text. -/
def settle (s : List Char) : List Char :=
  let t := tidy s
  if t.length < s.length then settle t else t
termination_by s.length

def normalizeChars (raw : List Char) : List Char := settle (tidy raw)

def normalize (raw : String) : String := String.ofList (normalizeChars raw.toList)

end TenderQuery.Sql
