import TenderQuery.Proofs.Query.Closing
import TenderQuery.Proofs.Service.Confidentiality

/-!
# What a request meets and leaves

A `Visit` is a request together with the state of the application that it meets, so that the requests of a run can
be looked at one by one (`handleAll_eq`). `Visit.answer?` is what the pipeline makes of the question in a request,
if it is asked at all: the events of a visit are those of this answer, the ending of a visit is read off it, and the
record that it leaves is taken into the metrics exactly if the answer is a reply (`comes_of_answer`,
`comes_of_no_answer`).
-/
set_option autoImplicit false
namespace TenderQuery.Service
open Query (Pipeline)
open Query.Pipeline (identify)

instance (request : Request) : Decidable request.Asks := inferInstanceAs (Decidable (_ ∧ _))

/-- A request in the state that it meets. -/
structure Visit (σ : Type) where
  moment : Moment
  request : Request
  state : AppState σ

namespace Application
variable {σ : Type}

/-- The visits of requests that are served one after another. -/
def visits (app : Application σ) : List (Moment × Request) → AppState σ → List (Visit σ)
  | [], _ => []
  | (moment, request) :: rest, s => ⟨moment, request, s⟩ :: app.visits rest (app.handle moment request s).state

/-- The state that requests leave. -/
def after (app : Application σ) : List (Moment × Request) → AppState σ → AppState σ
  | [], s => s
  | (moment, request) :: rest, s => app.after rest (app.handle moment request s).state

end Application

open Application

namespace Visit
variable {σ : Type} (app : Application σ) (v : Visit σ)

def id : String := identify v.moment.generatedId v.request.requestId

def exchange : Exchange σ := app.handle v.moment v.request v.state

/-- What a request asks, if it asks a question and can be read. -/
def asked? : Option AskRequest := if v.request.Asks then (readAsked v.request.body).toOption else none

/-- What the pipeline makes of the question, if it gets one. -/
def answer? : Option (Pipeline.Answer σ) :=
  v.asked?.bind fun asked => app.pipeline.map fun p =>
    p.ask v.moment.timestamp v.moment.generatedId (question v.id asked) v.state.cache v.state.world

/-- The ending that a result of the pipeline leads to. -/
def endingOf (asked : AskRequest) (result : Except Fault Query.Reply) : Ending :=
  match result with
  | .error fault => faultEnding v.id asked.question fault
  | .ok reply => replyEnding v.id v.moment.processingTime reply

/-- The metrics after an answer: the record of a reply is taken in. -/
def measured (answer : Pipeline.Answer σ) (m : Metrics) : Metrics :=
  match answer.result with
  | .error _ => m
  | .ok _ => answer.record.toList.foldl Metrics.track m

/-- What a visit comes to; the requests that were served are counted besides. -/
structure Comes (response : Response) (events : List Query.Event) (metrics : Metrics) : Prop where
  response : (v.exchange app).response = response
  events : (v.exchange app).events = events
  books : ∃ served, (v.exchange app).state.metrics = { metrics with served := served }

end Visit

namespace Application
variable {σ : Type} {app : Application σ} {v : Visit σ}

theorem handleAll_eq (app : Application σ) (calls : List (Moment × Request)) (s : AppState σ) :
    app.handleAll calls s = (app.visits calls s).map fun v => (v.request, v.exchange app) := by
  induction calls generalizing s with
  | nil => rfl
  | cons call calls ih =>
    obtain ⟨moment, request⟩ := call
    rw [handleAll, visits, List.map_cons, ih]
    rfl

theorem comes_of_dispatch {handled : Handled σ} (h : app.dispatch v.moment v.id v.request v.state = handled) :
    v.Comes app (respond v.id handled.ending) handled.events handled.state.metrics := by
  obtain ⟨hresponse, hevents, -⟩ := handle_of_dispatch h
  refine ⟨hresponse, hevents, ?_⟩
  subst h
  unfold Visit.exchange handle
  dsimp only
  split
  · exact ⟨_, rfl⟩
  · exact ⟨_, rfl⟩

/-! ## Reading -/

theorem answered_readBody {body : List UInt8} {ending : Ending} (h : readBody body = .error ending) :
    ∃ status content, ending = Ending.answered status content := by
  unfold readBody at h
  dsimp only at h
  split at h
  · cases h
    exact ⟨_, _, rfl⟩
  · split at h
    · cases h
      exact ⟨_, _, rfl⟩
    · split at h
      · cases h
        exact ⟨_, _, rfl⟩
      · cases h

theorem readAsked_eq (body : List UInt8) :
    readAsked body =
      match readBody body with
      | .error ending => .error ending
      | .ok j =>
        match (AskRequest.read .objectContent j).under (.key "body") with
        | .valid asked => .ok asked
        | .invalid issues => .error (.answered 422 (.issues issues)) := by
  unfold readAsked
  cases readBody body with
  | error ending => rfl
  | ok j =>
    change (match (AskRequest.read .objectContent j).under (.key "body") with
      | .valid asked => _
      | .invalid issues => _) = _
    dsimp only
    cases (AskRequest.read .objectContent j).under (.key "body") with
    | valid asked => rfl
    | invalid issues => rfl

/-- A request that cannot be read is answered. -/
theorem answered_readAsked {body : List UInt8} {ending : Ending} (h : readAsked body = .error ending) :
    ∃ status content, ending = Ending.answered status content := by
  rw [readAsked_eq] at h
  cases hbody : readBody body with
  | error found =>
    rw [hbody] at h
    cases h
    exact answered_readBody hbody
  | ok j =>
    rw [hbody] at h
    dsimp only at h
    split at h
    · cases h
    · cases h
      exact ⟨_, _, rfl⟩

/-! ## Visits -/

theorem comes_of_unasked (app : Application σ) (h : v.asked? = none) :
    ∃ status content, v.Comes app ⟨status, content, some v.id, true⟩ [] v.state.metrics := by
  unfold Visit.asked? at h
  split at h
  · rename_i hasks
    cases hread : readAsked v.request.body with
    | ok asked =>
      rw [hread] at h
      cases h
    | error ending =>
      obtain ⟨status, content, rfl⟩ := answered_readAsked hread
      have hdispatch := dispatch_of_asks hasks app v.moment v.id v.state
      unfold handleAsk at hdispatch
      rw [hread] at hdispatch
      exact ⟨status, content, comes_of_dispatch hdispatch⟩
  · rename_i hasks
    obtain ⟨status, content, hdispatch⟩ := dispatch_of_not_asks hasks app v.moment v.id v.state
    exact ⟨status, content, comes_of_dispatch hdispatch⟩

theorem dispatch_of_asked (app : Application σ) {asked : AskRequest} (h : v.asked? = some asked) :
    app.dispatch v.moment v.id v.request v.state =
      match app.pipeline with
      | none => ⟨.broken, [], v.state⟩
      | some p => askPipeline p v.moment v.id asked v.state := by
  unfold Visit.asked? at h
  split at h
  · rename_i hasks
    cases hread : readAsked v.request.body with
    | error ending =>
      rw [hread] at h
      cases h
    | ok found =>
      rw [hread] at h
      cases h
      rw [dispatch_of_asks hasks]
      unfold handleAsk
      generalize readAsked v.request.body = result at hread
      subst hread
      rfl
  · cases h

theorem comes_of_no_pipeline {asked : AskRequest} (h : v.asked? = some asked) (hpipeline : app.pipeline = none) :
    v.Comes app ⟨500, brokenContent v.id, none, false⟩ [] v.state.metrics := by
  have hdispatch := dispatch_of_asked app h
  rw [hpipeline] at hdispatch
  exact comes_of_dispatch hdispatch

theorem comes_of_answer {asked : AskRequest} (h : v.asked? = some asked) {answer : Pipeline.Answer σ}
    (hanswer : v.answer? app = some answer) :
    v.Comes app (respond v.id (v.endingOf asked answer.result)) answer.events
      (Visit.measured answer v.state.metrics) := by
  have hdispatch := dispatch_of_asked app h
  unfold Visit.answer? at hanswer
  rw [h] at hanswer
  obtain ⟨p, hp, rfl⟩ := Option.map_eq_some_iff.mp hanswer
  rw [hp] at hdispatch
  have hcomes := comes_of_dispatch hdispatch
  unfold askPipeline at hcomes
  dsimp only at hcomes
  unfold Visit.endingOf Visit.measured
  generalize p.ask v.moment.timestamp v.moment.generatedId (question v.id asked) v.state.cache v.state.world = answer
    at hcomes ⊢
  obtain ⟨result, record, events, cache, world⟩ := answer
  cases result with
  | ok reply => exact hcomes
  | error fault => exact hcomes

/-- The pipeline is asked only what a request asks. -/
theorem asked_of_answer {answer : Pipeline.Answer σ} (h : v.answer? app = some answer) :
    ∃ asked p, v.asked? = some asked ∧ app.pipeline = some p ∧
      p.ask v.moment.timestamp v.moment.generatedId (question v.id asked) v.state.cache v.state.world = answer := by
  obtain ⟨asked, hasked, hmap⟩ := Option.bind_eq_some_iff.mp h
  obtain ⟨p, hp, hanswer⟩ := Option.map_eq_some_iff.mp hmap
  exact ⟨asked, p, hasked, hp, hanswer⟩

/-- Without an answer of the pipeline nothing is done outside and nothing is measured. -/
theorem comes_of_no_answer (h : v.answer? app = none) :
    ∃ response, v.Comes app response [] v.state.metrics := by
  cases hasked : v.asked? with
  | none =>
    obtain ⟨status, content, hcomes⟩ := comes_of_unasked app hasked
    exact ⟨_, hcomes⟩
  | some asked =>
    unfold Visit.answer? at h
    rw [hasked] at h
    exact ⟨_, comes_of_no_pipeline hasked (Option.map_eq_none_iff.mp h)⟩

/-! ## Identifiers -/

/-- An identified request keeps its identifier. -/
theorem identify_identify (generated : String) (sent : Option String) :
    identify generated (some (identify generated sent)) = identify generated sent := by
  have hkept : identify generated (some generated) = generated := ite_self _
  cases sent with
  | none => exact hkept
  | some id =>
    by_cases hid : id.isEmpty = true
    · have hgenerated : identify generated (some id) = generated := if_pos hid
      rw [hgenerated]
      exact hkept
    · have hsent : identify generated (some id) = id := if_neg hid
      rw [hsent]
      exact hsent

/-- The record of an answer is headed by the identifier of the request and its question. -/
theorem closed_answer {asked : AskRequest} (h : v.asked? = some asked) {answer : Pipeline.Answer σ}
    (hanswer : v.answer? app = some answer) :
    Pipeline.Closed (Pipeline.newRecord v.moment.timestamp v.id (asked.question.getD "")).heading answer := by
  obtain ⟨found, p, hasked, -, rfl⟩ := asked_of_answer hanswer
  rw [h] at hasked
  cases hasked
  have hclosed :=
    p.closed_ask v.moment.timestamp v.moment.generatedId (question v.id asked) v.state.cache v.state.world
  have hid : identify v.moment.generatedId (question v.id asked).requestId = v.id := identify_identify _ _
  rw [hid] at hclosed
  exact hclosed

/-- Every entry that a visit hands to the audit log is that of a record with the heading of its question. -/
theorem exists_record {entry : Json} (h : entry ∈ Pipeline.entries (v.exchange app).events) :
    ∃ asked record, v.asked? = some asked ∧ entry = Query.Record.toEntry record ∧
      record.heading = (Pipeline.newRecord v.moment.timestamp v.id (asked.question.getD "")).heading := by
  cases hanswer : v.answer? app with
  | none =>
    obtain ⟨response, hcomes⟩ := comes_of_no_answer hanswer
    rw [hcomes.events] at h
    cases h
  | some answer =>
    obtain ⟨asked, -, hasked, -⟩ := asked_of_answer hanswer
    rw [(comes_of_answer hasked hanswer).events] at h
    obtain ⟨record, hheading, hentry⟩ := (closed_answer hasked hanswer).exists_record h
    exact ⟨asked, record, hasked, hentry, hheading⟩

end Application

end TenderQuery.Service
