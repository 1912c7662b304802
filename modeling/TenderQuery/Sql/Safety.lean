import TenderQuery.Text.Scan

/-!
# The read-only gate

A statement is safe when it starts with SELECT or WITH, holds no keyword of `blockedKeywords` as a whole
word, and has nothing chained behind a semicolon. `violation?` gives the first rule that a statement
breaks, in that order; the keyword reported is the first of the list that occurs.
-/
set_option autoImplicit false
namespace TenderQuery.Sql
open TenderQuery.Text

def blockedKeywords : List String :=
  ["INSERT", "UPDATE", "DELETE", "DROP", "CREATE", "ALTER", "EXEC", "EXECUTE", "TRUNCATE", "BACKUP",
   "RESTORE", "GRANT", "REVOKE", "DENY", "MERGE", "INTO", "OPENROWSET", "OPENQUERY", "OPENDATASOURCE",
   "DBCC", "KILL", "SHUTDOWN", "WAITFOR"]

/-- What stands behind a semicolon, blanks apart. -/
inductive Chaining where
  | nothing
  | lineComment
  | blockComment
  | statement
  deriving DecidableEq, Repr

namespace Chaining

def all : List Chaining := [nothing, lineComment, blockComment, statement]

/-- Judges the upper case text behind a semicolon and its blanks. -/
def appliesTo : Chaining → List Char → Bool
  | nothing, s => s.isEmpty
  | lineComment, s => ['-', '-'].isPrefixOf s
  | blockComment, s => ['/', '*'].isPrefixOf s
  | statement, [] => false
  | statement, c :: _ => 'A' ≤ c && c ≤ 'Z'

def message : Chaining → String
  | nothing => "Semicolon at end of statement"
  | lineComment => "Semicolon followed by line comment"
  | blockComment => "Semicolon followed by block comment"
  | statement => "Semicolon followed by another statement"

end Chaining

inductive Violation where
  | empty
  | notReadOnly
  | blockedKeyword (keyword : String)
  | chained (kind : Chaining)
  deriving DecidableEq, Repr

namespace Violation

/-- The rule that is broken. -/
def rule : Violation → String
  | empty | notReadOnly => "allowed_prefix"
  | blockedKeyword _ => "blocked_keyword"
  | chained _ => "statement_chaining"

def keyword? : Violation → Option String
  | blockedKeyword keyword => some keyword
  | _ => none

def message : Violation → String
  | empty => "Statement is empty"
  | notReadOnly => "Statement does not start with SELECT or WITH"
  | blockedKeyword keyword => "Statement contains blocked keyword: " ++ keyword
  | chained kind => kind.message

end Violation

def startsReadOnly (s : List Char) : Bool := (oneOfWords ["SELECT", "WITH"] s).isSome

def blockedKeyword? (s : List Char) : Option String :=
  blockedKeywords.find? fun keyword => occurs (word keyword) s

/-- The texts behind the semicolons, without the blanks in front. -/
def afterSemicolons : List Char → List (List Char)
  | [] => []
  | c :: r => if c = ';' then trimStart r :: afterSemicolons r else afterSemicolons r

def chaining? (s : List Char) : Option Chaining :=
  let tails := afterSemicolons (upper s)
  Chaining.all.find? fun kind => tails.any kind.appliesTo

/-- The first rule that a statement breaks, surrounding blanks apart. -/
def violation? (sql : String) : Option Violation :=
  if sql.isEmpty then some .empty
  else
    let statement := trim sql.toList
    if !startsReadOnly statement then some .notReadOnly
    else match blockedKeyword? statement with
      | some keyword => some (.blockedKeyword keyword)
      | none => (chaining? statement).map .chained

def isReadOnly (sql : String) : Bool := (violation? sql).isNone

/-- The message for a statement that breaks no rule. -/
def readOnlyMessage : String := "Statement is read-only"

end TenderQuery.Sql
