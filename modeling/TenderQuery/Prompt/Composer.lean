import TenderQuery.Prompt.Escape
import TenderQuery.Schema.Static

/-!
# Prompts

A prompt is a list of lines: the task, the schema, the last turns of the conversation, the question and
the rules for the answer. Equal inputs give equal prompts.

- `Composer.lines` is the prompt for a schema given by its lines.
- `Composer.compose` describes a live snapshot, `Composer.composeStatic` the schema known in advance with
  its relations and examples.

The question is put between quotes as it is; it has been escaped before. Earlier questions and sample
values are escaped here.
-/
set_option autoImplicit false
namespace TenderQuery.Prompt
open Schema (Table Snapshot SampleRow)

/-- An earlier question and, when known, how many rows it returned. -/
structure Turn where
  question : String
  resultCount : Option Int := none
  deriving DecidableEq, Repr

/-- How much of the conversation and of the sample data goes into a prompt. -/
structure Composer where
  historyWindow : Int := 5
  promptSampleRows : Int := 2
  maxSampleValueLength : Int := 80
  deriving DecidableEq, Repr

/-! ## Fixed parts -/

def preamble : String :=
  "You are an expert SQL Server database analyst for a tender management system. Your task is to " ++
  "understand natural language questions and convert them into precise, efficient SQL queries."

def policyRules : List String :=
  [ "IMPORTANT GUIDELINES:",
    "- Generate a single read-only statement: SELECT, or WITH ... SELECT. Never INSERT, UPDATE, " ++
      "DELETE, MERGE, DROP, CREATE, ALTER, EXEC or any other statement that changes data or schema.",
    "- Always filter out deleted records: WHERE (IsDeleted = 0 OR IsDeleted IS NULL) on every table " ++
      "that has an IsDeleted column.",
    "- List the columns you need explicitly instead of SELECT *, and give computed columns " ++
      "meaningful aliases (e.g. COUNT(*) AS TenderCount, Type AS TenderType).",
    "- Use table aliases when joining and qualify every column with its alias.",
    "- For \"biggest\", \"largest\", \"most recent\" or \"latest\" questions use a bounded result " ++
      "set: SELECT TOP N with a matching ORDER BY.",
    "- Limit list results with TOP 20 unless the question asks for a specific number.",
    "- Do not end the statement with a semicolon and do not chain statements." ]

def task : String :=
  "TASK: Generate a single, optimized SQL query that best answers the user's question. Return ONLY " ++
  "the SQL query wrapped in \x60\x60\x60sql blocks, with no explanations or comments."

namespace Composer

/-! ## Tables -/

/-- The first `count` characters, or all but the last `-count`. -/
def clip (count : Int) (s : String) : String :=
  let chars := s.toList
  String.ofList (chars.take (if 0 ≤ count then count.toNat else chars.length - count.natAbs))

def valueText (composer : Composer) : Json → String
  | .null => "NULL"
  | .text s =>
    let s := if (s.length : Int) > composer.maxSampleValueLength then
      clip composer.maxSampleValueLength s ++ "..." else s
    "'" ++ escape s ++ "'"
  | value => value.display

def rowLine (composer : Composer) (index : Nat) (row : SampleRow) : String :=
  let pairs := row.map fun (key, value) => key ++ ": " ++ composer.valueText value
  "    Row " ++ toString index ++ ": \x7b" ++ ", ".intercalate pairs ++ "\x7d"

/-- The number of sample rows shown for a table, two at most. -/
def shownRows (composer : Composer) : Nat := min composer.promptSampleRows.toNat 2

def tableLines (composer : Composer) (t : Table) : List String :=
  let heading := "- " ++ t.name ++ "(" ++ ", ".intercalate t.columnNames ++ ")"
  match t.rows.take composer.shownRows with
  | [] => [heading]
  | rows =>
    heading :: "  Sample data:" :: rows.mapIdx fun i row => composer.rowLine (i + 1) row

def schemaLines (composer : Composer) (snapshot : Snapshot) : List String :=
  snapshot.usableTables.flatMap composer.tableLines

/-! ## Conversation -/

def turnLine (turn : Turn) : String :=
  let line := "- Previous question: \"" ++ escape turn.question ++ "\""
  match turn.resultCount with
  | some n => line ++ " (returned " ++ toString n ++ " rows)"
  | none => line

/-- The turns that the window shows, the most recent ones. -/
def shownTurns (composer : Composer) (history : List Turn) : List Turn :=
  history.drop (history.length - composer.historyWindow.toNat)

def historyLines (composer : Composer) (history : List Turn) : List String :=
  match composer.shownTurns history with
  | [] => []
  | turns => "CONVERSATION CONTEXT (most recent last):" :: turns.map turnLine ++ [""]

/-! ## The whole prompt -/

def questionLine (question : String) : String := "USER QUESTION: \"" ++ question ++ "\""

/-- The lines of a prompt; `extra` follows the schema. -/
def lines (composer : Composer) (schema extra : List String) (question : String)
    (history : List Turn) : List String :=
  [preamble, "", "DATABASE SCHEMA:", ""] ++ schema ++ [""] ++ extra ++ composer.historyLines history
    ++ [questionLine question, ""] ++ policyRules ++ ["", task]

def text (lines : List String) : String := "\n".intercalate lines

def compose (composer : Composer) (question : String) (snapshot : Snapshot) (history : List Turn) :
    String :=
  text (composer.lines (composer.schemaLines snapshot) [] question history)

/-- What is known in advance besides the tables. -/
def staticNotes : List String :=
  "KEY RELATIONSHIPS:" :: Schema.staticRelations.map (fun relation => "- " ++ relation)
    ++ ["", "EXAMPLES:"]
    ++ Schema.staticExamples.map (fun (asked, sql) => "- \"" ++ asked ++ "\" -> " ++ sql)
    ++ [""]

def composeStatic (composer : Composer) (question : String) (history : List Turn) : String :=
  text (composer.lines (composer.schemaLines Schema.staticSnapshot) staticNotes question history)

end Composer

end TenderQuery.Prompt
