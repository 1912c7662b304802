import TenderQuery.Audit.Journal
import TenderQuery.Fault
import TenderQuery.Query.Record

/-!
# Persisting records

A log hands the entry of a record to a list in memory and to a journal. Every record has a key, and each
key is persisted once; a second attempt fails and changes nothing. An entry that the journal refuses stays in
memory, and its record counts as persisted. So does a record that has no entry because its time is no number,
which reaches neither.

`deliver` hands an entry to any number of sinks, in their order.
-/
set_option autoImplicit false
namespace TenderQuery.Audit
open Query (Record)

/-- Hands an entry to every sink, each of which keeps what it gets. -/
def deliver (sinks : List (List Json)) (entry : Json) : List (List Json) := sinks.map (· ++ [entry])

structure Log where
  journal : Journal := {}
  memory : List Json := []
  persisted : List String := []

namespace Log

def alreadyPersisted (record : Record) : Fault :=
  ⟨.audit, "Execution record " ++ (Json.optionalText record.requestId).display
    ++ " was already persisted"⟩

/-- The entry of the record with this time, or why it is not written, and the log that is left. -/
def recordTimed (hash : Hash) (limit : Json.DigitLimit) (log : Log) (key : String) (r : Record) (time : Json) :
    Except Fault Json × Log :=
  if log.persisted.contains key then (.error (alreadyPersisted r), log)
  else
    let marked := { log with persisted := log.persisted ++ [key] }
    match r.toEntryTimed time with
    | .error fault => (.error fault, marked)
    | .ok entry =>
      let held := { marked with memory := log.memory ++ [entry] }
      match log.journal.write hash limit entry with
      | .ok journal => (.ok entry, { held with journal := journal })
      | .error fault => (.error fault, held)

def record (hash : Hash) (limit : Json.DigitLimit) (log : Log) (key : String) (r : Record) :
    Except Fault Json × Log :=
  log.recordTimed hash limit key r (.number r.executionTime)

/-- Opens the journal anew from its lines. -/
def reopen (limit : Json.DigitLimit) (log : Log) : Except LineFault Log :=
  (Journal.openLines limit log.journal.lines).map fun journal => { log with journal := journal }

end Log

end TenderQuery.Audit
