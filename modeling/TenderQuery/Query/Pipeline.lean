import TenderQuery.Fallback.Default
import TenderQuery.Model.Completion
import TenderQuery.Prompt.Composer
import TenderQuery.Query.Candidate
import TenderQuery.Query.Record
import TenderQuery.Schema.Cache
import TenderQuery.Sql.Normal
import TenderQuery.Sql.Safety
import TenderQuery.Sql.Shape
import TenderQuery.Sql.SoftDelete

/-!
# From a question to rows

A pipeline answers a question in five steps: it grounds a prompt in the schema, asks the model, checks the
statement in the model's answer, executes it, and hands one record to the audit log. When the model step
or the execution fails in a way that is foreseen, a fallback rule supplies the statement instead.

- `Collaborators` are the model, the database, the introspector and the clocks. Each works on a state of
  the world of its own; a scripted world makes a run a function.
- `Step` is a piece of the work: it may fail, and what it has done to the record stays.
- `Pipeline.translate` carries the model's answer through the stages of a candidate.
- `Pipeline.answer` is the work up to the rows.
- `Pipeline.ask` adds the end of every request: a reply with a generic text when the work failed, the fault
  itself when it was none of the foreseen kinds, and the entry for the audit log, once. A blank question
  and a cancelled request leave no entry.
-/
set_option autoImplicit false
namespace TenderQuery.Query
open Prompt (Composer Turn)
open Schema (Snapshot Cache)

/-! ## What a pipeline works with -/

structure Collaborators (σ : Type) where
  complete : Model.Request → σ → Except Fault Json × σ
  fetchAll : String → σ → Except Fault (List ResultRow) × σ
  introspect : Option (σ → Except Fault Snapshot × σ)
  now : σ → Number × σ
  cacheNow : σ → Number × σ

structure Config where
  composer : Composer := {}
  policy : Sql.SoftDelete := {}
  rules : List Fallback.Rule := Fallback.defaultRules
  temperature : Json := .real (.ofDecimal false 2 (-1))
  maxTokens : Json := .nat 1000
  degradeOnIntrospectionError : Bool := true
  cacheTtl : Option Number := none

structure Pipeline (σ : Type) where
  config : Config
  collaborators : Collaborators σ

/-- What a request does to the outside, in order. -/
inductive Event where
  | introspected
  | prompted (request : Model.Request)
  | sent (sql : String)
  | audited (entry : Json)

structure Run (σ : Type) where
  record : Record
  cache : Cache Number Snapshot
  world : σ
  events : List Event := []

abbrev Step (σ α : Type) := ExceptT Fault (StateM (Run σ)) α

namespace Step
variable {σ α : Type}

def emit (event : Event) : Step σ Unit :=
  modify fun run => { run with events := run.events ++ [event] }

def update (f : Record → Record) : Step σ Unit :=
  modify fun run => { run with record := f run.record }

def enter (state : State) : Step σ Unit := update (·.enter state)

/-- Reads something off the world. -/
def observe (f : σ → α × σ) : Step σ α :=
  modifyGet fun run => let (a, world) := f run.world; (a, { run with world := world })

/-- Lets a collaborator work, who may fail. -/
def call (f : σ → Except Fault α × σ) : Step σ α := do
  match ← observe f with
  | .ok a => return a
  | .error fault => throw fault

end Step

namespace Pipeline
variable {σ : Type}

/-! ## The prompt -/

def load (introspect : σ → Except Fault Snapshot × σ) : Step σ Snapshot := do
  Step.emit .introspected
  Step.call introspect

/-- The cached snapshot if it is fresh; without one the clock is not read. -/
def cached? (p : Pipeline σ) (ttl : Number) : Step σ (Option Snapshot) := do
  let run ← get
  if run.cache.stored.isNone then return none
  let now ← Step.observe p.collaborators.cacheNow
  return run.cache.fresh? ttl now

/-- The live snapshot. The cache is looked into before and after its lock is taken. -/
def snapshot (p : Pipeline σ) (introspect : σ → Except Fault Snapshot × σ) : Step σ Snapshot := do
  match p.config.cacheTtl with
  | none => load introspect
  | some ttl =>
    if let some found ← p.cached? ttl then return found
    if let some found ← p.cached? ttl then return found
    let loaded ← load introspect
    let now ← Step.observe p.collaborators.cacheNow
    modify fun run => { run with cache := ⟨some (loaded, now)⟩ }
    return loaded

/-- Notes an introspection fault that the static schema makes up for. -/
def degrade (p : Pipeline σ) (fault : Fault) : Step σ (Option Snapshot) := do
  if fault.kind = .introspection && p.config.degradeOnIntrospectionError then
    Step.update fun r =>
      { r with recoveredErrors := r.recoveredErrors ++ ["introspection: " ++ fault.message] }
    return none
  else throw fault

def liveSchema? (p : Pipeline σ) (useIntrospection : Bool) : Step σ (Option Snapshot) := do
  match p.collaborators.introspect with
  | some introspect =>
    if useIntrospection then
      try
        let snapshot ← p.snapshot introspect
        pure (some snapshot)
      catch fault => p.degrade fault
    else return none
  | none => return none

def buildPrompt (p : Pipeline σ) (history : List Turn) (useIntrospection : Bool) : Step σ String := do
  let live ← p.liveSchema? useIntrospection
  let question := (← get).record.escapedQuestion
  match live with
  | some snapshot => return p.config.composer.compose question snapshot history
  | none => return p.config.composer.composeStatic question history

/-! ## The model's statement -/

/-- The statement in the model's answer, which has none unless it is a text. -/
def normalizeContent : Json → String
  | .text s => Sql.normalize s
  | _ => ""

def advance (c : Candidate) (stage : Stage) (text : Option String) : Step σ Candidate :=
  match c.advance stage text with
  | .ok c => pure c
  | .error fault => throw fault

/-- Carries the model's answer through every stage to the final one. -/
def translate (p : Pipeline σ) (content : Json) : Step σ String := do
  let normalized := normalizeContent content
  Step.update fun r => { r with cleanedSql := some normalized }
  if normalized.isEmpty then
    Step.enter .empty
    throw ⟨.noQueryGenerated, "Model output contained no query"⟩
  Step.enter .normalized
  let candidate := Candidate.start normalized .normalized ""
  if let some violation := Sql.violation? candidate.text then
    Step.enter .rejected
    throw ⟨.unsafeQuery, violation.message⟩
  let candidate ← advance candidate .validated none
  Step.enter .validated
  let candidate ← advance candidate .policyApplied (p.config.policy.inject candidate.text)
  Step.enter .policyApplied
  if let some defect := Sql.defect? candidate.text then
    Step.enter .badSyntax
    throw ⟨.badSyntax, defect.message⟩
  let candidate ← advance candidate .syntaxChecked none
  Step.enter .syntaxChecked
  let candidate ← advance candidate .final none
  match candidate.finalText with
  | .ok sql => return sql
  | .error fault => throw fault

/-- The faults of the model step that a fallback statement answers. -/
def abandonment? : FaultKind → Option FallbackReason
  | .modelUnavailable => some .modelUnavailable
  | .noQueryGenerated => some .noQueryGenerated
  | .unsafeQuery => some .unsafeQuery
  | .badSyntax => some .badSyntax
  | _ => none

def note (reason : FallbackReason) (message : String) : Step σ Unit :=
  Step.update fun r =>
    { r with recoveredErrors := r.recoveredErrors ++ [reason.label ++ ": " ++ message] }

def askModel (p : Pipeline σ) (prompt : String) : Step σ String := do
  let request : Model.Request := ⟨prompt, p.config.temperature, p.config.maxTokens⟩
  Step.emit (.prompted request)
  let content ← Step.call (p.collaborators.complete request)
  Step.enter .modelCalled
  Step.update fun r => { r with generatedSql := content }
  p.translate content

/-- Gives up the model's statement for a foreseen reason. -/
def abandon (fault : Fault) : Step σ FallbackReason := do
  match abandonment? fault.kind with
  | none => throw fault
  | some reason =>
    if reason = .modelUnavailable then Step.enter .modelFailed
    note reason fault.message
    return reason

/-- The model's statement, or why there is none. -/
def modelStatement (p : Pipeline σ) (prompt : String) : Step σ (Except FallbackReason String) := do
  try
    let sql ← p.askModel prompt
    pure (.ok sql)
  catch fault =>
    let reason ← abandon fault
    pure (.error reason)

/-! ## Execution -/

def execute (p : Pipeline σ) (sql : String) : Step σ (List ResultRow) := do
  Step.emit (.sent sql)
  Step.call (p.collaborators.fetchAll sql)

/-- Executes the statement of the matching rule; an execution error is final. -/
def executeFallback (p : Pipeline σ) (reason : FallbackReason) : Step σ (List ResultRow) := do
  let question := (← get).record.question
  match Fallback.statement p.config.rules question with
  | .error fault => throw fault
  | .ok sql =>
    Step.enter .fallback
    Step.update fun r =>
      { r with fallbackUsed := true, fallbackReason := some reason, finalSql := some sql }
    Step.enter .fallbackExecuting
    try p.execute sql
    catch fault =>
      if fault.kind = .execution then throw ⟨.fallbackExhausted, fault.message⟩
      else throw fault

/-- Executes the model's statement; an execution error leads to a fallback statement. -/
def executePrimary (p : Pipeline σ) (sql : String) : Step σ (List ResultRow) := do
  Step.enter .executing
  Step.update fun r => { r with finalSql := some sql }
  try p.execute sql
  catch fault =>
    if fault.kind = .execution then
      Step.enter .execError
      note .executionError fault.message
      p.executeFallback .executionError
    else throw fault

/-! ## The request -/

/-- A question with what comes along with it; a missing question is none. -/
structure Question where
  text : Option String
  history : List Turn := []
  useIntrospection : Bool := true
  requestId : Option String := none

def answeredReply (r : Record) (rows : List ResultRow) : Reply where
  success := true
  question := r.question
  query := r.finalSql
  rows := rows
  fallbackUsed := r.fallbackUsed

def answer (p : Pipeline σ) (question : Question) : Step σ Reply := do
  let prompt ← p.buildPrompt question.history question.useIntrospection
  Step.enter .prompted
  let rows ← match ← p.modelStatement prompt with
    | .ok sql => p.executePrimary sql
    | .error reason => p.executeFallback reason
  Step.update fun r => { r with resultCount := rows.length, success := true }
  Step.enter .done
  return answeredReply (← get).record rows

/-- The text of every failure that a caller sees. -/
def failureMessage : String :=
  "Sorry, I couldn't answer that question. Please try rephrasing it or ask something more specific."

def failedReply (r : Record) : Reply where
  success := false
  question := r.question
  query := none
  rows := []
  fallbackUsed := r.fallbackUsed
  error := some failureMessage

/-- The record of a request that ended with a fault. -/
def failedRecord (r : Record) (text : String) : Record :=
  { r with success := false, error := some text }.enter .failed

/-- What a request comes to: its result, the record of a request that was begun, what it did, and the
state that is left for the next one. -/
structure Answer (σ : Type) where
  result : Except Fault Reply
  record : Option Record
  events : List Event
  cache : Cache Number Snapshot
  world : σ

/-- Takes the time and hands the record to the audit log. -/
def finish (p : Pipeline σ) (started : Number) (run : Run σ) (record : Record)
    (result : Except Fault Reply) : Answer σ :=
  let (ended, world) := p.collaborators.now run.world
  let record := { record with executionTime := (ended - started).mul (.whole 1000) }
  ⟨result, some record, run.events ++ [.audited record.toEntry], run.cache, world⟩

def blankQuestion : Fault := ⟨.invalidQuestion, "Question is required."⟩

/-- Identifies a request by the given text unless that is missing or empty. -/
def identify (generated : String) : Option String → String
  | some id => if id.isEmpty then generated else id
  | none => generated

def newRecord (timestamp id text : String) : Record :=
  { timestamp := timestamp
    requestId := some id
    question := text
    escapedQuestion := Prompt.escape (Text.trimString text)
    states := [.start] }

/-- Ends a request whose work gave a result and left a run. -/
def conclude (p : Pipeline σ) (started : Number) (result : Except Fault Reply) (run : Run σ) :
    Answer σ :=
  match result with
  | .ok reply => p.finish started run run.record (.ok reply)
  | .error fault =>
    if fault.kind = .cancelled then ⟨.error fault, some run.record, run.events, run.cache, run.world⟩
    else if fault.kind.isOwn then
      p.finish started run (failedRecord run.record fault.message) (.ok (failedReply run.record))
    else p.finish started run (failedRecord run.record fault.summary) (.error fault)

/-- Answers a question at a time, with an identifier to use if it has none. -/
def ask (p : Pipeline σ) (timestamp generated : String) (question : Question)
    (cache : Cache Number Snapshot) (world : σ) : Answer σ :=
  let text := question.text.getD ""
  if Text.isEmptyOrBlank text.toList then ⟨.error blankQuestion, none, [], cache, world⟩
  else
    let record := newRecord timestamp (identify generated question.requestId) text
    let (started, world) := p.collaborators.now world
    let (result, run) := (p.answer question).run ⟨record, cache, world, []⟩
    p.conclude started result run

/-- A question at a time, with an identifier to use if it has none. -/
structure Asking where
  timestamp : String
  generated : String
  question : Question

/-- Answers questions one after another. -/
def askAll (p : Pipeline σ) : List Asking → Cache Number Snapshot → σ → List (Answer σ)
  | [], _, _ => []
  | asking :: rest, cache, world =>
    let answer := p.ask asking.timestamp asking.generated asking.question cache world
    answer :: p.askAll rest answer.cache answer.world

end Pipeline

end TenderQuery.Query
