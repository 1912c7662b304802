import TenderQuery.Proofs.Service.Exposition
import TenderQuery.Proofs.Service.Identification

/-!
# The two books

What happened to the questions is kept twice, in the audit log and in the metrics. `Accounts` says that the two
agree on how often a question came to each outcome, on the reasons for the fallback, and on how many questions were
answered. They agree on all requests but those that crash (`accounts_log_iff`): a crash is in the log, as a failure,
and not in the metrics. So they agree on everything exactly if nothing crashed.
-/
set_option autoImplicit false
namespace TenderQuery.Service
open Decimal (Binary64)
open Query (FallbackReason Outcome Pipeline Record)
open Query.Pipeline (entries)
open Application

/-! ## Entries -/

def flag (entry : Json) (key : String) : Bool := (entry.getD key).bool?.getD false

/-- The outcome that an entry of the audit log tells of. -/
def outcomeOf (entry : Json) : Outcome :=
  if flag entry "success" then (if flag entry "fallback_used" then .fallback else .success) else .failure

/-- The entry tells that this is why a fallback was used. -/
def hasReason (reason : FallbackReason) (entry : Json) : Bool :=
  (entry.getD "fallback_reason").text? == some reason.label

theorem outcomeOf_toEntry (record : Record) : outcomeOf record.toEntry = record.outcome := rfl

theorem flag_success_toEntry (record : Record) : flag record.toEntry "success" = record.success := rfl

theorem hasReason_toEntry (record : Record) (reason : FallbackReason) :
    hasReason reason record.toEntry = (record.fallbackReason == some reason) := by
  have hlabel : ∀ a b : FallbackReason, (a.label == b.label) = (a == b) := by
    intro a b
    cases a <;> cases b <;> decide
  have hmember : hasReason reason record.toEntry =
      ((Json.optionalText (record.fallbackReason.map (·.label))).text? == some reason.label) := rfl
  rw [hmember]
  cases record.fallbackReason with
  | none => rfl
  | some found => exact hlabel found reason

/-! ## Agreement -/

/-- The metrics count what the entries tell of. -/
structure Accounts (m : Metrics) (es : List Json) : Prop where
  outcomes : ∀ o, m.outcomes.count o = es.countP fun entry => outcomeOf entry == o
  reasons : ∀ r, m.reasons.count r = es.countP (hasReason r)
  rows : Metrics.within m.resultRows (.infinity false) = es.countP fun entry => flag entry "success"

namespace Accounts
variable {m : Metrics} {es : List Json}

theorem empty : Accounts {} [] := ⟨fun _ => rfl, fun _ => rfl, rfl⟩

/-- Taking in a record and writing down its entry keep the books in agreement. -/
theorem track (h : Accounts m es) (record : Record) : Accounts (m.track record) (es ++ [record.toEntry]) where
  outcomes o := by
    rw [List.countP_append, List.countP_singleton, outcomeOf_toEntry, ← h.outcomes o]
    unfold Metrics.track
    rw [List.count_append, List.count_singleton]
  reasons r := by
    rw [List.countP_append, List.countP_singleton, hasReason_toEntry, ← h.reasons r]
    unfold Metrics.track
    rw [List.count_append]
    cases record.fallbackReason with
    | none => rfl
    | some found => exact congrArg _ List.count_singleton
  rows := by
    rw [List.countP_append, List.countP_singleton, flag_success_toEntry, ← h.rows]
    unfold Metrics.track
    cases record.success with
    | false => rfl
    | true => exact List.countP_append

theorem served (h : Accounts m es) (served : List Served) : Accounts { m with served := served } es :=
  ⟨h.outcomes, h.reasons, h.rows⟩

end Accounts

/-- What the metrics show is what the entries tell of. -/
structure Exhibits (m : Metrics) (es : List Json) : Prop where
  outcomes : ∀ o, m.samples (Metrics.outcomeName o) =
    Metrics.shown (Metrics.outcomeName o) (es.countP fun entry => outcomeOf entry == o)
  reasons : ∀ r, m.samples (Metrics.reasonName r) = Metrics.shown (Metrics.reasonName r) (es.countP (hasReason r))
  rows : m.samples Metrics.rowsName =
    [Metrics.countLine Metrics.rowsName (es.countP fun entry => flag entry "success")]

theorem Accounts.exhibits {m : Metrics} {es : List Json} (h : Accounts m es) : Exhibits m es where
  outcomes o := by rw [← h.outcomes o, Metrics.samples_outcomeName]
  reasons r := by rw [← h.reasons r, Metrics.samples_reasonName]
  rows := by rw [← h.rows, Metrics.samples_rowsName]

/-! ## Visits -/

/-- The pipeline passes on a fault that is neither the caller's nor the end of the request. -/
def Visit.crashes {σ : Type} (app : Application σ) (v : Visit σ) : Bool :=
  (v.answer? app).any fun answer =>
    match answer.result with
    | .error fault => fault.kind != .invalidQuestion && fault.kind != .cancelled
    | .ok _ => false

namespace Application
variable {σ : Type} {app : Application σ}

/-- What is handed to the audit log in the course of visits. -/
def log (app : Application σ) (visits : List (Visit σ)) : List Json :=
  visits.flatMap fun v => entries (v.exchange app).events

/-- The visits that do not crash. -/
def standing (app : Application σ) (visits : List (Visit σ)) : List (Visit σ) :=
  visits.filter fun v => !v.crashes app

/-- What a visit leaves in the books. -/
inductive Booked (app : Application σ) (v : Visit σ) : Prop where
  | nothing (stands : v.crashes app = false) (log : entries (v.exchange app).events = [])
      (metrics : ∃ served, (v.exchange app).state.metrics = { v.state.metrics with served := served })
  | tracked (stands : v.crashes app = false) (record : Record)
      (log : entries (v.exchange app).events = [record.toEntry])
      (metrics : ∃ served, (v.exchange app).state.metrics = { v.state.metrics.track record with served := served })
  | missed (crash : v.crashes app = true) (record : Record) (failed : record.success = false)
      (log : entries (v.exchange app).events = [record.toEntry])
      (metrics : ∃ served, (v.exchange app).state.metrics = { v.state.metrics with served := served })

theorem booked (app : Application σ) (v : Visit σ) : Booked app v := by
  cases hanswer : v.answer? app with
  | none =>
    obtain ⟨response, hcomes⟩ := comes_of_no_answer hanswer
    refine .nothing ?_ ?_ hcomes.books
    · unfold Visit.crashes
      rw [hanswer]
      rfl
    · rw [hcomes.events]
      rfl
  | some answer =>
    obtain ⟨asked, p, hasked, -⟩ := asked_of_answer hanswer
    have hcomes := comes_of_answer hasked hanswer
    have hcrashes : v.crashes app =
        match answer.result with
        | .error fault => fault.kind != .invalidQuestion && fault.kind != .cancelled
        | .ok _ => false := by
      unfold Visit.crashes
      rw [hanswer]
      rfl
    have hlog := congrArg entries hcomes.events
    have hbooks := hcomes.books
    cases closed_answer hasked hanswer with
    | blank => exact .nothing hcrashes hlog hbooks
    | cancelled kind unaudited =>
      refine .nothing ?_ (hlog.trans unaudited) hbooks
      rw [hcrashes]
      dsimp only
      rw [kind]
      rfl
    | replied headed audited => exact .tracked hcrashes _ (hlog.trans audited) hbooks
    | @crashed fault record events cache world unforeseen kind failed headed audited =>
      refine .missed ?_ _ failed (hlog.trans audited) hbooks
      -- The refusal of a blank question is a fault of the service itself, and those are not passed on.
      have hforeign : fault.kind ≠ .invalidQuestion := by
        intro hkind
        rw [hkind] at unforeseen
        cases unforeseen
      rw [hcrashes, Bool.and_eq_true, bne_iff_ne, bne_iff_ne]
      exact ⟨hforeign, kind⟩

/-- The books stay in agreement over a visit, except that nothing is counted of a crash. -/
theorem accounts_exchange {v : Visit σ} {es : List Json} (h : Accounts v.state.metrics es) :
    Accounts (v.exchange app).state.metrics
      (es ++ if v.crashes app then [] else entries (v.exchange app).events) := by
  cases booked app v with
  | nothing stands log metrics =>
    obtain ⟨served, hmetrics⟩ := metrics
    rw [stands, log, hmetrics, if_neg Bool.false_ne_true, List.append_nil]
    exact h.served served
  | tracked stands record log metrics =>
    obtain ⟨served, hmetrics⟩ := metrics
    rw [stands, log, hmetrics, if_neg Bool.false_ne_true]
    exact (h.track record).served served
  | missed crash record failed log metrics =>
    obtain ⟨served, hmetrics⟩ := metrics
    rw [crash, hmetrics, if_pos rfl, List.append_nil]
    exact h.served served

/-! ## Runs -/

theorem log_cons (v : Visit σ) (vs : List (Visit σ)) :
    log app (v :: vs) = entries (v.exchange app).events ++ log app vs := List.flatMap_cons

theorem log_standing_cons (v : Visit σ) (vs : List (Visit σ)) :
    log app (standing app (v :: vs)) =
      (if v.crashes app then [] else entries (v.exchange app).events) ++ log app (standing app vs) := by
  unfold standing
  rw [List.filter_cons]
  cases v.crashes app with
  | true => rfl
  | false => exact log_cons v _

theorem accounts_after (app : Application σ) (calls : List (Moment × Request)) {s : AppState σ} {es : List Json}
    (h : Accounts s.metrics es) :
    Accounts (app.after calls s).metrics (es ++ log app (standing app (app.visits calls s))) := by
  -- The entries before the run are any, since those of the first request come to stand before the rest of it.
  induction calls generalizing s es with
  | nil =>
    rw [visits, standing, List.filter_nil]
    exact (List.append_nil es).symm ▸ h
  | cons call calls ih =>
    obtain ⟨moment, request⟩ := call
    rw [visits, log_standing_cons, ← List.append_assoc]
    exact ih (accounts_exchange (v := ⟨moment, request, s⟩) h)

theorem countP_failure_of_crash {v : Visit σ} (h : v.crashes app = true) :
    (entries (v.exchange app).events).countP (fun entry => outcomeOf entry == .failure) = 1 := by
  cases booked app v with
  | nothing stands log metrics =>
    rw [h] at stands
    cases stands
  | tracked stands record log metrics =>
    rw [h] at stands
    cases stands
  | missed crash record failed log metrics =>
    have houtcome : record.outcome = .failure := by
      unfold Record.outcome
      rw [failed]
      rfl
    rw [log, List.countP_singleton, outcomeOf_toEntry, houtcome]
    rfl

theorem countP_failure (app : Application σ) (vs : List (Visit σ)) :
    (log app vs).countP (fun entry => outcomeOf entry == .failure) =
      (log app (standing app vs)).countP (fun entry => outcomeOf entry == .failure) +
        vs.countP (Visit.crashes app) := by
  induction vs with
  | nil => rfl
  | cons v vs ih =>
    rw [log_cons, log_standing_cons, List.countP_append, List.countP_append, List.countP_cons, ih]
    cases hcrash : v.crashes app with
    | false =>
      rw [if_neg Bool.false_ne_true, if_neg Bool.false_ne_true]
      omega
    | true =>
      rw [if_pos rfl, if_pos rfl, countP_failure_of_crash hcrash, List.countP_nil]
      omega

/-- After any requests to an application with fresh metrics, the metrics show what the audit log tells of the
requests that did not crash. The log tells of each crash besides, as a failure, so that the two agree on all
requests exactly if none crashed. -/
theorem accounts_log_iff (app : Application σ) (calls : List (Moment × Request)) (world : σ)
    (cache : Schema.Cache Number Schema.Snapshot) :
    let s : AppState σ := ⟨world, cache, {}⟩
    let visits := app.visits calls s
    let metrics := (app.after calls s).metrics
    app.handleAll calls s = visits.map (fun v => (v.request, v.exchange app)) ∧
      Exhibits metrics (log app (standing app visits)) ∧
      (log app visits).countP (fun entry => outcomeOf entry == .failure) =
        metrics.outcomes.count .failure + visits.countP (Visit.crashes app) ∧
      (Accounts metrics (log app visits) ↔ ∀ v ∈ visits, v.crashes app = false) := by
  intro s visits metrics
  have haccounts : Accounts metrics ([] ++ log app (standing app visits)) := accounts_after app calls Accounts.empty
  rw [List.nil_append] at haccounts
  have hfailures := countP_failure app visits
  rw [← haccounts.outcomes] at hfailures
  refine ⟨handleAll_eq app calls s, haccounts.exhibits, hfailures, ?_, ?_⟩
  · intro h v hv
    rw [← h.outcomes] at hfailures
    have hnone : visits.countP (Visit.crashes app) = 0 := by omega
    exact Bool.eq_false_iff.mpr (List.countP_eq_zero.mp hnone v hv)
  · intro h
    have hall : standing app visits = visits := List.filter_eq_self.mpr fun v hv => by rw [h v hv]; rfl
    rw [← hall]
    exact haccounts

/-- The entry of a crash tells of a failure, and no sample of failures is shown. -/
theorem failure_uncounted_exploding :
    let app : Application Unit := ⟨some exploding, none⟩
    let calls := [(⟨"id", "t", .whole 1⟩, whichRequest)]
    let s : AppState Unit := ⟨(), ⟨none⟩, {}⟩
    (log app (app.visits calls s)).countP (fun entry => outcomeOf entry == .failure) = 1 ∧
      (app.after calls s).metrics.samples (Metrics.outcomeName .failure) = [] := by
  refine ⟨by decide +kernel, ?_⟩
  rw [Metrics.samples_outcomeName]
  decide +kernel

end Application

end TenderQuery.Service
