import TenderQuery.Fault
import TenderQuery.Json.Basic
import TenderQuery.LogLevel

/-!
# Audit entries in the service log

An entry is reported by two events: a summary, and all of its members. The second is kept for debugging
unless the report is verbose. Members whose names the log keeps for itself cannot be reported.
-/
set_option autoImplicit false
namespace TenderQuery.Audit

structure LogEvent where
  level : LogLevel
  event : String
  fields : List (String × Json)

/-- The members that a summary shows. -/
def summaryKeys : List String :=
  ["request_id", "question", "result_count", "fallback_used", "success", "execution_time_ms"]

def summaryEvent (entry : Json) : LogEvent where
  level := .info
  event := "Query execution"
  fields := summaryKeys.map fun key => (key, entry.getD key)

/-- Names that a log call has a use for. -/
def reservedKeys : List String := ["event", "self", "method_name"]

def reservedKey (key : String) : Fault := ⟨.badType, "got multiple values for argument '" ++ key ++ "'"⟩

/-- The event that shows the whole entry. -/
def detailEvent (verbose : Bool) (entry : Json) : Except Fault LogEvent :=
  let members := entry.members?.getD []
  match reservedKeys.find? fun key => (members.lookup key).isSome with
  | some key => .error (reservedKey key)
  | none => .ok ⟨if verbose then .info else .debug, "Query execution detail", members⟩

/-- The events that are logged, and the fault that ends the report if there is one. -/
def report (verbose : Bool) (entry : Json) : List LogEvent × Option Fault :=
  match detailEvent verbose entry with
  | .ok detail => ([summaryEvent entry, detail], none)
  | .error fault => ([summaryEvent entry], some fault)

end TenderQuery.Audit
