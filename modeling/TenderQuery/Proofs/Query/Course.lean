import TenderQuery.Proofs.Query.Steps

/-!
# The course of a request

Everything that a request can do is one of few courses, which `course_answer` reads off the text of the work.

- `Verdict` is what the checks make of the model's answer, `judge` the checks themselves.
- `Attempt`, `FallenBack` and `Executed` say how the model step, a fallback and the execution of the model's
  statement go, and which run they leave.
- `Course` puts them together; later proofs are by cases on it and open no step.
- No course changes the heading of the record (`heading_of_course`).
-/
set_option autoImplicit false
namespace TenderQuery.Query

/-- What a record says of its request from the beginning. -/
structure Heading where
  timestamp : String
  requestId : Option String
  question : String
  escapedQuestion : String

def Record.heading (r : Record) : Heading := ⟨r.timestamp, r.requestId, r.question, r.escapedQuestion⟩

/-! ## The checks -/

/-- What the checks make of the model's answer. -/
inductive Verdict where
  | empty
  | rejected (violation : Sql.Violation)
  | badSyntax (defect : Sql.Defect)
  | accepted (sql : String)

namespace Verdict

/-- The states that the checks enter on the way to a verdict. -/
def trail : Verdict → List State
  | empty => [.empty]
  | rejected _ => [.normalized, .rejected]
  | badSyntax _ => [.normalized, .validated, .policyApplied, .badSyntax]
  | accepted _ => [.normalized, .validated, .policyApplied, .syntaxChecked]

/-- Why a statement is refused, in a word and as a text. -/
def refusal? : Verdict → Option (FallbackReason × String)
  | empty => some (.noQueryGenerated, "Model output contained no query")
  | rejected violation => some (.unsafeQuery, violation.message)
  | badSyntax defect => some (.badSyntax, defect.message)
  | accepted _ => none

def result : Verdict → Except Fault String
  | empty => .error ⟨.noQueryGenerated, "Model output contained no query"⟩
  | rejected violation => .error ⟨.unsafeQuery, violation.message⟩
  | badSyntax defect => .error ⟨.badSyntax, defect.message⟩
  | accepted sql => .ok sql

end Verdict

namespace Pipeline
variable {σ : Type}

/-- The checks of the model's answer, in order: is there a statement, is it safe, has it a good shape with
the policy applied to it. -/
def judge (policy : Sql.SoftDelete) (content : Json) : Verdict :=
  let normalized := normalizeContent content
  if normalized.isEmpty then .empty
  else
    match Sql.violation? normalized, Sql.defect? (policy.inject normalized) with
    | some violation, _ => .rejected violation
    | none, some defect => .badSyntax defect
    | none, none => .accepted (policy.inject normalized)

theorem exec_advance {c : Candidate} {stage : Stage} (h : stage.rank = c.stage.rank + 1)
    (text : Option String) (run : Run σ) :
    Step.exec (advance c stage text) run = (.ok ⟨stage, text.getD c.text⟩, run) := by
  unfold advance Candidate.advance
  rw [if_pos h]
  rfl

theorem exec_translate (p : Pipeline σ) (content : Json) (run : Run σ) :
    Step.exec (p.translate content) run =
      ((judge p.config.policy content).result,
        (run.update fun r => { r with cleanedSql := some (normalizeContent content) }).walk
          (judge p.config.policy content).trail) := by
  have hstart : Candidate.start (normalizeContent content) .normalized "" =
    ⟨.normalized, normalizeContent content⟩ := rfl
  unfold translate judge
  rw [Step.exec_bind, Step.exec_update]
  by_cases hempty : (normalizeContent content).isEmpty = true
  · simp only [hempty, if_true, Step.exec_bind, Step.exec_enter, Step.exec_throw]
    rfl
  · rw [Bool.not_eq_true] at hempty
    simp only [hempty, Bool.false_eq_true, if_false, Step.exec_bind, Step.exec_enter, hstart]
    cases hviolation : Sql.violation? (normalizeContent content) with
    | some violation =>
      simp only [Step.exec_bind, Step.exec_enter, Step.exec_throw, Run.walk_walk]
      rfl
    | none =>
      simp only [Step.exec_bind, Step.exec_enter]
      rw [exec_advance rfl]
      simp only
      rw [exec_advance rfl]
      simp only [Option.getD_some, Option.getD_none]
      cases hdefect : Sql.defect? (p.config.policy.inject (normalizeContent content)) with
      | some defect =>
        simp only [Step.exec_bind, Step.exec_enter, Step.exec_throw, Run.walk_walk]
        rfl
      | none =>
        simp only [Step.exec_bind, Step.exec_enter]
        rw [exec_advance rfl]
        simp only
        rw [exec_advance rfl]
        simp only [Run.walk_walk, Option.getD_none]
        rfl

/-! ## The model step -/

def requestFor (p : Pipeline σ) (prompt : String) : Model.Request :=
  ⟨prompt, p.config.temperature, p.config.maxTokens⟩

/-- The run after the model was asked. -/
def asked (p : Pipeline σ) (prompt : String) (world : σ) (run : Run σ) : Run σ :=
  (run.emit (.prompted (p.requestFor prompt))).within world

/-- The run after an answer of the model went through the checks. -/
def judged (p : Pipeline σ) (content : Json) (run : Run σ) : Run σ :=
  (run.update fun r =>
    { r with generatedSql := content, cleanedSql := some (normalizeContent content) }).walk
      (.modelCalled :: (judge p.config.policy content).trail)

theorem exec_note (reason : FallbackReason) (message : String) (run : Run σ) :
    Step.exec (note reason message) run =
      (.ok (), run.update fun r =>
        { r with recoveredErrors := r.recoveredErrors ++ [reason.label ++ ": " ++ message] }) := rfl

/-- The run after the model's statement was given up. -/
def abandoned (reason : FallbackReason) (message : String) (run : Run σ) : Run σ :=
  (if reason = .modelUnavailable then run.walk [.modelFailed] else run).update fun r =>
    { r with recoveredErrors := r.recoveredErrors ++ [reason.label ++ ": " ++ message] }

theorem exec_abandon_of_foreseen {fault : Fault} {reason : FallbackReason}
    (h : abandonment? fault.kind = some reason) (run : Run σ) :
    Step.exec (abandon fault) run = (.ok reason, abandoned reason fault.message run) := by
  unfold abandon abandoned
  simp only [h]
  by_cases hreason : reason = .modelUnavailable
  · rw [if_pos hreason, if_pos hreason]
    rfl
  · rw [if_neg hreason, if_neg hreason]
    rfl

theorem exec_abandon_of_unforeseen {fault : Fault} (h : abandonment? fault.kind = none) (run : Run σ) :
    Step.exec (abandon fault) run = (.error fault, run) := by
  unfold abandon
  simp only [h, Step.exec_throw]

theorem exec_askModel_raised {p : Pipeline σ} {prompt : String} {run : Run σ} {fault : Fault} {world : σ}
    (h : p.collaborators.complete (p.requestFor prompt) run.world = (.error fault, world)) :
    Step.exec (p.askModel prompt) run = (.error fault, p.asked prompt world run) := by
  unfold askModel
  rw [Step.exec_bind, Step.exec_emit]
  exact Step.exec_bind_of_error (Step.exec_call_of_eq h)

theorem exec_askModel_answered {p : Pipeline σ} {prompt : String} {run : Run σ} {content : Json} {world : σ}
    (h : p.collaborators.complete (p.requestFor prompt) run.world = (.ok content, world)) :
    Step.exec (p.askModel prompt) run =
      ((judge p.config.policy content).result, p.judged content (p.asked prompt world run)) := by
  have hcall : Step.exec (Step.call (p.collaborators.complete (p.requestFor prompt)))
      (run.emit (.prompted (p.requestFor prompt))) = (.ok content, p.asked prompt world run) :=
    Step.exec_call_of_eq h
  unfold askModel
  rw [Step.exec_bind, Step.exec_emit]
  refine (Step.exec_bind_of_ok hcall).trans ?_
  rw [Step.exec_bind, Step.exec_enter]
  simp only
  rw [Step.exec_bind, Step.exec_update]
  simp only
  rw [exec_translate]
  unfold judged
  simp only [Run.walk, Run.update, List.append_assoc, List.singleton_append]

/-- How the model step goes: the model raises, which may be foreseen or not, or its answer goes through the
checks, which refuse or accept it. -/
inductive Attempt (p : Pipeline σ) (prompt : String) (run : Run σ) :
    Except Fault (Except FallbackReason String) × Run σ → Prop where
  | crashed {fault : Fault} {world : σ}
      (answer : p.collaborators.complete (p.requestFor prompt) run.world = (.error fault, world))
      (unforeseen : abandonment? fault.kind = none) :
      Attempt p prompt run (.error fault, p.asked prompt world run)
  | raised {fault : Fault} {reason : FallbackReason} {world : σ}
      (answer : p.collaborators.complete (p.requestFor prompt) run.world = (.error fault, world))
      (foreseen : abandonment? fault.kind = some reason) :
      Attempt p prompt run (.ok (.error reason), abandoned reason fault.message (p.asked prompt world run))
  | refused {content : Json} {verdict : Verdict} {reason : FallbackReason} {message : String} {world : σ}
      (answer : p.collaborators.complete (p.requestFor prompt) run.world = (.ok content, world))
      (judged : judge p.config.policy content = verdict) (refused : verdict.refusal? = some (reason, message)) :
      Attempt p prompt run
        (.ok (.error reason), abandoned reason message (p.judged content (p.asked prompt world run)))
  | accepted {content : Json} {sql : String} {world : σ}
      (answer : p.collaborators.complete (p.requestFor prompt) run.world = (.ok content, world))
      (judged : judge p.config.policy content = .accepted sql) :
      Attempt p prompt run (.ok (.ok sql), p.judged content (p.asked prompt world run))

theorem exec_modelStatement_of_ok {p : Pipeline σ} {prompt sql : String} {run run' : Run σ}
    (h : Step.exec (p.askModel prompt) run = (.ok sql, run')) :
    Step.exec (p.modelStatement prompt) run = (.ok (.ok sql), run') := by
  unfold modelStatement
  rw [Step.exec_tryCatch, Step.exec_bind_of_ok h, Step.exec_pure]

theorem exec_modelStatement_of_error {p : Pipeline σ} {prompt : String} {run run' : Run σ} {fault : Fault}
    (h : Step.exec (p.askModel prompt) run = (.error fault, run')) :
    Step.exec (p.modelStatement prompt) run =
      match abandonment? fault.kind with
      | some reason => (.ok (.error reason), abandoned reason fault.message run')
      | none => (.error fault, run') := by
  unfold modelStatement
  rw [Step.exec_tryCatch, Step.exec_bind_of_error h]
  simp only
  cases hreason : abandonment? fault.kind with
  | some reason => rw [Step.exec_bind_of_ok (exec_abandon_of_foreseen hreason run'), Step.exec_pure]
  | none => exact Step.exec_bind_of_error (exec_abandon_of_unforeseen hreason run')

theorem attempt_modelStatement (p : Pipeline σ) (prompt : String) (run : Run σ) :
    Attempt p prompt run (Step.exec (p.modelStatement prompt) run) := by
  cases hanswer : p.collaborators.complete (p.requestFor prompt) run.world with
  | mk answer world =>
    cases answer with
    | error fault =>
      rw [exec_modelStatement_of_error (exec_askModel_raised hanswer)]
      cases hreason : abandonment? fault.kind with
      | none => exact .crashed hanswer hreason
      | some reason => exact .raised hanswer hreason
    | ok content =>
      have hask := exec_askModel_answered hanswer
      cases hverdict : judge p.config.policy content with
      | empty =>
        rw [hverdict] at hask
        rw [exec_modelStatement_of_error hask]
        exact .refused hanswer hverdict rfl
      | rejected violation =>
        rw [hverdict] at hask
        rw [exec_modelStatement_of_error hask]
        exact .refused hanswer hverdict rfl
      | badSyntax defect =>
        rw [hverdict] at hask
        rw [exec_modelStatement_of_error hask]
        exact .refused hanswer hverdict rfl
      | accepted sql =>
        rw [hverdict] at hask
        rw [exec_modelStatement_of_ok hask]
        exact .accepted hanswer hverdict

/-! ## The execution -/

/-- The run after a statement was sent. -/
def sentTo (sql : String) (world : σ) (run : Run σ) : Run σ := (run.emit (.sent sql)).within world

theorem exec_execute {p : Pipeline σ} {sql : String} {run : Run σ} {result : Except Fault (List ResultRow)}
    {world : σ} (h : p.collaborators.fetchAll sql run.world = (result, world)) :
    Step.exec (p.execute sql) run = (result, sentTo sql world run) := by
  unfold execute
  rw [Step.exec_bind, Step.exec_emit]
  exact Step.exec_call_of_eq h

/-- An execution error of the fallback statement is final. -/
def exhausted (fault : Fault) : Fault :=
  if fault.kind = .execution then ⟨.fallbackExhausted, fault.message⟩ else fault

/-- The run up to the sending of the fallback statement. -/
def fallingBack (reason : FallbackReason) (sql : String) (run : Run σ) : Run σ :=
  (run.update fun r =>
    { r with fallbackUsed := true, fallbackReason := some reason, finalSql := some sql }).walk
      [.fallback, .fallbackExecuting]

/-- How a fallback goes: no rule gives a statement, or the statement is sent. -/
inductive FallenBack (p : Pipeline σ) (reason : FallbackReason) (run : Run σ) :
    Except Fault (List ResultRow) × Run σ → Prop where
  | unavailable {fault : Fault}
      (statement : Fallback.statement p.config.rules run.record.question = .error fault) :
      FallenBack p reason run (.error fault, run)
  | sent {sql : String} {result : Except Fault (List ResultRow)} {world : σ}
      (statement : Fallback.statement p.config.rules run.record.question = .ok sql)
      (answer : p.collaborators.fetchAll sql run.world = (result, world)) :
      FallenBack p reason run (result.mapError exhausted, sentTo sql world (fallingBack reason sql run))

theorem fallenBack_executeFallback (p : Pipeline σ) (reason : FallbackReason) (run : Run σ) :
    FallenBack p reason run (Step.exec (p.executeFallback reason) run) := by
  have hwalk : ∀ sql, ((run.walk [.fallback]).update fun r =>
      { r with fallbackUsed := true, fallbackReason := some reason, finalSql := some sql }).walk
        [.fallbackExecuting] = fallingBack reason sql run := by
    intro sql
    simp only [fallingBack, Run.walk, Run.update, List.append_assoc, List.singleton_append]
  unfold executeFallback
  rw [Step.exec_bind, Step.exec_get]
  cases hstatement : Fallback.statement p.config.rules run.record.question with
  | error fault =>
    simp only [hstatement, Step.exec_throw]
    exact .unavailable hstatement
  | ok sql =>
    cases hanswer : p.collaborators.fetchAll sql run.world with
    | mk result world =>
      have hsent : Step.exec (p.execute sql) (fallingBack reason sql run) =
        (result, sentTo sql world (fallingBack reason sql run)) := exec_execute hanswer
      have hexec := @FallenBack.sent _ p reason run sql result world hstatement hanswer
      simp only [hstatement]
      rw [Step.exec_bind, Step.exec_enter]
      simp only
      rw [Step.exec_bind, Step.exec_update]
      simp only
      rw [Step.exec_bind, Step.exec_enter]
      simp only
      rw [hwalk, Step.exec_tryCatch, hsent]
      cases result with
      | ok rows => exact hexec
      | error fault =>
        have hmapped : Except.mapError exhausted (Except.error fault : Except Fault (List ResultRow)) =
            .error (exhausted fault) := rfl
        simp only [hmapped, exhausted] at hexec
        simp only
        split
        · rename_i hkind
          rw [if_pos hkind] at hexec
          exact hexec
        · rename_i hkind
          rw [if_neg hkind] at hexec
          exact hexec

/-- The run after the model's statement was sent. -/
def executed (sql : String) (world : σ) (run : Run σ) : Run σ :=
  sentTo sql world ((run.update fun r => { r with finalSql := some sql }).walk [.executing])

/-- How the execution of the model's statement goes: it gives rows, it fails, or it fails in a way that is
answered by a fallback. -/
inductive Executed (p : Pipeline σ) (sql : String) (run : Run σ) :
    Except Fault (List ResultRow) × Run σ → Prop where
  | rows {rows : List ResultRow} {world : σ}
      (answer : p.collaborators.fetchAll sql run.world = (.ok rows, world)) :
      Executed p sql run (.ok rows, executed sql world run)
  | failed {fault : Fault} {world : σ}
      (answer : p.collaborators.fetchAll sql run.world = (.error fault, world))
      (unforeseen : fault.kind ≠ .execution) : Executed p sql run (.error fault, executed sql world run)
  | fellBack {fault : Fault} {world : σ} {outcome : Except Fault (List ResultRow) × Run σ}
      (answer : p.collaborators.fetchAll sql run.world = (.error fault, world))
      (foreseen : fault.kind = .execution)
      (fallback : FallenBack p .executionError
        (abandoned .executionError fault.message ((executed sql world run).walk [.execError])) outcome) :
      Executed p sql run outcome

theorem executed_executePrimary (p : Pipeline σ) (sql : String) (run : Run σ) :
    Executed p sql run (Step.exec (p.executePrimary sql) run) := by
  have hwalk : ((run.walk [.executing]).update fun r => { r with finalSql := some sql }) =
    (run.update fun r => { r with finalSql := some sql }).walk [.executing] := rfl
  cases hanswer : p.collaborators.fetchAll sql run.world with
  | mk result world =>
    have hsent : Step.exec (p.execute sql)
        ((run.update fun r => { r with finalSql := some sql }).walk [.executing]) =
        (result, executed sql world run) := exec_execute hanswer
    unfold executePrimary
    rw [Step.exec_bind, Step.exec_enter]
    simp only
    rw [Step.exec_bind, Step.exec_update]
    simp only
    rw [Step.exec_tryCatch, hwalk, hsent]
    cases result with
    | ok rows => exact .rows hanswer
    | error fault =>
      simp only
      split
      · rename_i hkind
        rw [Step.exec_bind, Step.exec_enter]
        simp only
        rw [Step.exec_bind, exec_note]
        exact .fellBack hanswer hkind (fallenBack_executeFallback p _ _)
      · rename_i hkind
        exact .failed hanswer hkind

/-! ## The request -/

/-- The end of the work: rows are answered with a reply, and a fault is left as it is. -/
def settled (outcome : Except Fault (List ResultRow) × Run σ) : Except Fault Reply × Run σ :=
  match outcome with
  | (.error fault, run) => (.error fault, run)
  | (.ok rows, run) =>
    let run := (run.update fun r => { r with resultCount := rows.length, success := true }).walk [.done]
    (.ok (answeredReply run.record rows), run)

/-- How a request goes: there is no prompt for it, the model step fails, or a statement is executed, the
model's own or that of a fallback rule. -/
inductive Course (p : Pipeline σ) (question : Question) (run : Run σ) : Except Fault Reply × Run σ → Prop where
  | ungrounded {fault : Fault} {grounded : Run σ}
      (prompt : Step.exec (p.buildPrompt question.history question.useIntrospection) run =
        (.error fault, grounded)) :
      Course p question run (.error fault, grounded)
  | crashed {text : String} {fault : Fault} {grounded left : Run σ}
      (prompt : Step.exec (p.buildPrompt question.history question.useIntrospection) run = (.ok text, grounded))
      (attempt : Attempt p text (grounded.walk [.prompted]) (.error fault, left)) :
      Course p question run (.error fault, left)
  | fellBack {text : String} {reason : FallbackReason} {grounded left : Run σ}
      {outcome : Except Fault (List ResultRow) × Run σ}
      (prompt : Step.exec (p.buildPrompt question.history question.useIntrospection) run = (.ok text, grounded))
      (attempt : Attempt p text (grounded.walk [.prompted]) (.ok (.error reason), left))
      (fallback : FallenBack p reason left outcome) : Course p question run (settled outcome)
  | executed {text sql : String} {grounded left : Run σ} {outcome : Except Fault (List ResultRow) × Run σ}
      (prompt : Step.exec (p.buildPrompt question.history question.useIntrospection) run = (.ok text, grounded))
      (attempt : Attempt p text (grounded.walk [.prompted]) (.ok (.ok sql), left))
      (execution : Executed p sql left outcome) : Course p question run (settled outcome)

/-- The work on a question once there is a prompt for it. -/
def work (p : Pipeline σ) (prompt : String) : Step σ Reply := do
  Step.enter .prompted
  let rows ← match ← p.modelStatement prompt with
    | .ok sql => p.executePrimary sql
    | .error reason => p.executeFallback reason
  Step.update fun r => { r with resultCount := rows.length, success := true }
  Step.enter .done
  return answeredReply (← get).record rows

theorem answer_eq (p : Pipeline σ) (question : Question) :
    p.answer question = p.buildPrompt question.history question.useIntrospection >>= p.work := rfl

theorem exec_settle (step : Step σ (List ResultRow)) (run : Run σ) :
    Step.exec (do
      let rows ← step
      Step.update fun r => { r with resultCount := rows.length, success := true }
      Step.enter .done
      return answeredReply (← get).record rows) run = settled (Step.exec step run) := by
  rw [Step.exec_bind]
  generalize Step.exec step run = outcome
  obtain ⟨fault | rows, left⟩ := outcome
  · rfl
  · rfl

theorem course_answer (p : Pipeline σ) (question : Question) (run : Run σ) :
    Course p question run (Step.exec (p.answer question) run) := by
  unfold answer
  cases hprompt : Step.exec (p.buildPrompt question.history question.useIntrospection) run with
  | mk result grounded =>
    cases result with
    | error fault =>
      rw [Step.exec_bind_of_error hprompt]
      exact .ungrounded hprompt
    | ok text =>
      rw [Step.exec_bind_of_ok hprompt, Step.exec_bind, Step.exec_enter]
      simp only
      have hattempt := attempt_modelStatement p text (grounded.walk [.prompted])
      cases hmodel : Step.exec (p.modelStatement text) (grounded.walk [.prompted]) with
      | mk statement left =>
        rw [hmodel] at hattempt
        obtain fault | reason | sql := statement
        · rw [Step.exec_bind_of_error hmodel]
          exact .crashed hprompt hattempt
        · rw [Step.exec_bind_of_ok hmodel]
          simp only
          rw [exec_settle]
          exact .fellBack hprompt hattempt (fallenBack_executeFallback p reason left)
        · rw [Step.exec_bind_of_ok hmodel]
          simp only
          rw [exec_settle]
          exact .executed hprompt hattempt (executed_executePrimary p sql left)

/-- What the model answers to the question, if there is a prompt for it. -/
def modelAnswer? (p : Pipeline σ) (question : Question) (run : Run σ) : Option (Except Fault Json) :=
  match Step.exec (p.buildPrompt question.history question.useIntrospection) run with
  | (.ok prompt, grounded) => some (p.collaborators.complete (p.requestFor prompt) grounded.world).1
  | (.error _, _) => none

theorem modelAnswer_of_prompt {p : Pipeline σ} {question : Question} {run grounded : Run σ}
    {prompt : String}
    (h : Step.exec (p.buildPrompt question.history question.useIntrospection) run = (.ok prompt, grounded)) :
    p.modelAnswer? question run =
      some (p.collaborators.complete (p.requestFor prompt) grounded.world).1 := by
  unfold modelAnswer?
  rw [h]

/-! ## What stays -/

theorem heading_of_attempt {p : Pipeline σ} {prompt : String} {run left : Run σ}
    {result : Except Fault (Except FallbackReason String)} (h : Attempt p prompt run (result, left)) :
    left.record.heading = run.record.heading := by
  cases h with
  | crashed answer unforeseen => rfl
  | raised answer foreseen =>
    unfold abandoned
    split
    · rfl
    · rfl
  | refused answer judged refused =>
    unfold abandoned
    split
    · rfl
    · rfl
  | accepted answer judged => rfl

theorem heading_of_grounded {run grounded : Run σ} (h : Grounded run grounded) :
    grounded.record.heading = run.record.heading := by
  obtain ⟨notes, hrecord⟩ := h.record
  rw [hrecord]
  rfl

theorem heading_of_fallenBack {p : Pipeline σ} {reason : FallbackReason} {run : Run σ}
    {outcome : Except Fault (List ResultRow) × Run σ} (h : FallenBack p reason run outcome) :
    outcome.2.record.heading = run.record.heading := by
  cases h with
  | unavailable statement => rfl
  | sent statement answer => rfl

theorem heading_of_executed {p : Pipeline σ} {sql : String} {run : Run σ}
    {outcome : Except Fault (List ResultRow) × Run σ} (h : Executed p sql run outcome) :
    outcome.2.record.heading = run.record.heading := by
  cases h with
  | rows answer => rfl
  | failed answer unforeseen => rfl
  | fellBack answer foreseen fallback => exact (heading_of_fallenBack fallback).trans rfl

theorem heading_settled (outcome : Except Fault (List ResultRow) × Run σ) :
    (settled outcome).2.record.heading = outcome.2.record.heading := by
  obtain ⟨fault | rows, left⟩ := outcome
  · rfl
  · rfl

/-- The work on a question leaves the heading of the record as it is. -/
theorem heading_of_course {p : Pipeline σ} {question : Question} {run : Run σ}
    {outcome : Except Fault Reply × Run σ} (h : Course p question run outcome) :
    outcome.2.record.heading = run.record.heading := by
  have hground := heading_of_grounded (grounds_buildPrompt p question.history question.useIntrospection run)
  cases h with
  | ungrounded prompt =>
    rw [prompt] at hground
    exact hground
  | crashed prompt attempt =>
    rw [prompt] at hground
    exact (heading_of_attempt attempt).trans hground
  | fellBack prompt attempt fallback =>
    rw [prompt] at hground
    rw [heading_settled, heading_of_fallenBack fallback, heading_of_attempt attempt]
    exact hground
  | executed prompt attempt execution =>
    rw [prompt] at hground
    rw [heading_settled, heading_of_executed execution, heading_of_attempt attempt]
    exact hground

/-! ## Whole requests -/

/-- The run with which the work on a question begins. -/
def begun (p : Pipeline σ) (timestamp generated : String) (question : Question)
    (cache : Schema.Cache Number Schema.Snapshot) (world : σ) : Run σ :=
  ⟨newRecord timestamp (identify generated question.requestId) (question.text.getD ""), cache,
    (p.collaborators.now world).2, []⟩

theorem ask_of_blank {p : Pipeline σ} {question : Question}
    (h : Text.isEmptyOrBlank (question.text.getD "").toList = true) (timestamp generated : String)
    (cache : Schema.Cache Number Schema.Snapshot) (world : σ) :
    p.ask timestamp generated question cache world = ⟨.error blankQuestion, none, [], cache, world⟩ := by
  unfold ask
  exact if_pos h

theorem ask_of_not_blank {p : Pipeline σ} {question : Question}
    (h : Text.isEmptyOrBlank (question.text.getD "").toList = false) (timestamp generated : String)
    (cache : Schema.Cache Number Schema.Snapshot) (world : σ) :
    p.ask timestamp generated question cache world =
      p.conclude (p.collaborators.now world).1
        (Step.exec (p.answer question) (p.begun timestamp generated question cache world)).1
        (Step.exec (p.answer question) (p.begun timestamp generated question cache world)).2 := by
  unfold ask
  simp only [h]
  rfl

end Pipeline

end TenderQuery.Query
