import TenderQuery.Fault
import TenderQuery.Json.Basic

/-!
# Execution records

- A `State` is a step of one request; the states that it entered, in order, are its path.
- A `Record` is what the audit log keeps of a request.
- `Record.toEntry` is the audit entry, with the time rounded to hundredths of a millisecond.
  `Record.toEntryTimed` takes any value for the time; there is no entry if it cannot be rounded.
- `Record.outcome` classifies a finished request.
-/
set_option autoImplicit false
namespace TenderQuery.Query

inductive State where
  | start
  | prompted
  | modelCalled
  | modelFailed
  | normalized
  | empty
  | validated
  | rejected
  | policyApplied
  | syntaxChecked
  | badSyntax
  | fallback
  | executing
  | execError
  | fallbackExecuting
  | done
  | failed
  deriving DecidableEq, Repr

namespace State

def label : State → String
  | start => "start"
  | prompted => "prompted"
  | modelCalled => "model_called"
  | modelFailed => "model_failed"
  | normalized => "normalized"
  | empty => "empty"
  | validated => "validated"
  | rejected => "rejected"
  | policyApplied => "policy_applied"
  | syntaxChecked => "syntax_checked"
  | badSyntax => "bad_syntax"
  | fallback => "fallback"
  | executing => "executing"
  | execError => "exec_error"
  | fallbackExecuting => "fallback_executing"
  | done => "done"
  | failed => "failed"

def all : List State :=
  [start, prompted, modelCalled, modelFailed, normalized, empty, validated, rejected, policyApplied,
   syntaxChecked, badSyntax, fallback, executing, execError, fallbackExecuting, done, failed]

def ofLabel? (name : String) : Option State := all.find? fun state => state.label == name

end State

/-- Why a request was answered by a fallback statement. -/
inductive FallbackReason where
  | modelUnavailable
  | noQueryGenerated
  | unsafeQuery
  | badSyntax
  | executionError
  deriving DecidableEq, Repr

namespace FallbackReason

def label : FallbackReason → String
  | modelUnavailable => "model_unavailable"
  | noQueryGenerated => "no_query_generated"
  | unsafeQuery => "unsafe_query"
  | badSyntax => "bad_syntax"
  | executionError => "execution_error"

def all : List FallbackReason :=
  [modelUnavailable, noQueryGenerated, unsafeQuery, badSyntax, executionError]

def ofLabel? (name : String) : Option FallbackReason := all.find? fun reason => reason.label == name

end FallbackReason

/-- `generatedSql` is the model's answer as it came, which need not be a text. -/
structure Record where
  timestamp : String
  requestId : Option String := none
  question : String
  escapedQuestion : String := ""
  generatedSql : Json := .null
  cleanedSql : Option String := none
  finalSql : Option String := none
  resultCount : Int := 0
  fallbackUsed : Bool := false
  fallbackReason : Option FallbackReason := none
  success : Bool := false
  error : Option String := none
  recoveredErrors : List String := []
  executionTime : Number := .real (.zero false)
  states : List State := []

namespace Record

def enter (r : Record) (state : State) : Record := { r with states := r.states ++ [state] }

/-- The state entered last. -/
def state (r : Record) : State := r.states.getLast?.getD .start

def toEntry (r : Record) : Json :=
  .object
    [ ("timestamp", .text r.timestamp),
      ("request_id", .optionalText r.requestId),
      ("question", .text r.question),
      ("escaped_question", .text r.escapedQuestion),
      ("generated_sql", r.generatedSql),
      ("cleaned_sql", .optionalText r.cleanedSql),
      ("final_sql", .optionalText r.finalSql),
      ("result_count", .int r.resultCount),
      ("fallback_used", .bool r.fallbackUsed),
      ("fallback_reason", .optionalText (r.fallbackReason.map (·.label))),
      ("success", .bool r.success),
      ("error", .optionalText r.error),
      ("recovered_errors", .list (r.recoveredErrors.map .text)),
      ("execution_time_ms", .number (r.executionTime.roundToPlaces 2)),
      ("states", .list (r.states.map fun s => .text s.label)) ]

def notRounded (value : Json) : Fault :=
  ⟨.badType, "type " ++ value.typeName ++ " doesn't define __round__ method"⟩

def toEntryTimed (r : Record) (time : Json) : Except Fault Json :=
  match time.toNumber? with
  | some n => .ok { r with executionTime := n }.toEntry
  | none => .error (notRounded time)

end Record

inductive Outcome where
  | success
  | fallback
  | failure
  deriving DecidableEq, Repr

def Outcome.label : Outcome → String
  | success => "success"
  | fallback => "fallback"
  | failure => "failure"

def Record.outcome (r : Record) : Outcome :=
  if r.success then (if r.fallbackUsed then .fallback else .success) else .failure

/-! ## Replies -/

abbrev ResultRow := List (String × Json)

/-- What the caller gets: rows and the statement that found them, or an error. -/
structure Reply where
  success : Bool
  question : String
  query : Option String
  rows : List ResultRow
  fallbackUsed : Bool
  error : Option String := none

def Reply.toResponse (reply : Reply) : Json :=
  if reply.success then
    .object
      [ ("question", .text reply.question),
        ("query", .optionalText reply.query),
        ("result", .list (reply.rows.map .object)),
        ("fallbackUsed", .bool reply.fallbackUsed) ]
  else .object [("error", .optionalText reply.error), ("question", .text reply.question)]

end TenderQuery.Query
