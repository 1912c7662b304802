import TenderQuery.Proofs.Query.Path
import TenderQuery.Proofs.Query.Sending

/-!
# What a record says about its path

The members of a record are filled in one by one while the request enters its states. `Ledger` lists what
they have to do with the states entered so far and with the statements sent so far; it holds when a request
begins, every step of the work keeps it, and so every record that reaches the audit log is `Coherent`
(`record_coherent`).
-/
set_option autoImplicit false
namespace TenderQuery.Query

/-! ## The state before a fallback -/

namespace State

/-- States that no member of a record but the path tells of. -/
def isQuiet : State → Bool
  | modelCalled | executing | fallback | fallbackExecuting => false
  | _ => true

/-- The state from which a path goes to its first fallback. -/
def beforeFallback? : List State → Option State
  | s :: t :: rest => if t = fallback then some s else beforeFallback? (t :: rest)
  | _ => none

/-- Why a fallback follows a state, given the kind of fault that the model raised, if it did. -/
def reasonAfter (raised : Option FaultKind) : State → Option FallbackReason
  | modelFailed => some .modelUnavailable
  | empty => some .noQueryGenerated
  | rejected => some .unsafeQuery
  | badSyntax => some .badSyntax
  | execError => some .executionError
  | prompted => raised.bind Pipeline.abandonment?
  | _ => none

theorem beforeFallback_eq_none {states : List State} (h : fallback ∉ states) : beforeFallback? states = none := by
  induction states with
  | nil => rfl
  | cons s rest ih =>
    cases rest with
    | nil => rfl
    | cons t rest =>
      rw [List.mem_cons, not_or] at h
      have ht : t ≠ fallback := fun e => h.2 (e ▸ List.mem_cons_self)
      rw [beforeFallback?, if_neg ht, ih h.2]

theorem beforeFallback_append {trail : List State} (htrail : fallback ∉ trail) (states : List State) :
    beforeFallback? (states ++ trail) = beforeFallback? states := by
  induction states with
  | nil => exact beforeFallback_eq_none htrail
  | cons s rest ih =>
    cases rest with
    | nil =>
      cases trail with
      | nil => rfl
      | cons t trail =>
        have ht : t ≠ fallback := fun e => htrail (e ▸ List.mem_cons_self)
        rw [List.singleton_append, beforeFallback?, if_neg ht]
        exact beforeFallback_eq_none htrail
    | cons t rest =>
      rw [List.cons_append] at ih ⊢
      rw [List.cons_append, beforeFallback?, beforeFallback?, ih]

theorem beforeFallback_fallback {states : List State} {s : State} (h : fallback ∉ states)
    (hlast : states.getLast? = some s) (rest : List State) :
    beforeFallback? (states ++ fallback :: rest) = some s := by
  induction states with
  | nil => cases hlast
  | cons first states ih =>
    rw [List.mem_cons, not_or] at h
    cases states with
    | nil =>
      cases hlast
      rw [List.singleton_append, beforeFallback?, if_pos rfl]
      rfl
    | cons t states =>
      have ht : t ≠ fallback := fun e => h.2 (e ▸ List.mem_cons_self)
      rw [List.getLast?_cons_cons] at hlast
      rw [List.cons_append, List.cons_append, beforeFallback?, if_neg ht]
      exact ih h.2 hlast

theorem not_mem_of_isQuiet {s : State} (hs : s.isQuiet = false) {trail : List State}
    (h : ∀ t ∈ trail, t.isQuiet = true) : s ∉ trail := by
  intro hmem
  rw [h s hmem] at hs
  cases hs

end State

/-! ## The ledger -/

/-- What the members of a record have to do with its states and with the statements that were sent, given what
the model answered. -/
structure Ledger (answer? : Option (Except Fault Json)) (raised : Option FaultKind) (record : Record)
    (sent : List String) : Prop where
  fallbackUsed : record.fallbackUsed = true ↔ .fallback ∈ record.states
  fallbackReason : record.fallbackReason.isSome = true ↔ .fallback ∈ record.states
  reason : record.fallbackReason = (State.beforeFallback? record.states).bind (State.reasonAfter raised)
  answered : .modelCalled ∈ record.states →
    ∃ content, answer? = some (.ok content) ∧ record.generatedSql = content ∧
      record.cleanedSql = some (Pipeline.normalizeContent content)
  unanswered : .modelCalled ∉ record.states → record.generatedSql = .null ∧ record.cleanedSql = none
  sentCount : sent.length = record.states.count .executing + record.states.count .fallbackExecuting
  finalSql : record.finalSql = sent.getLast?

namespace Ledger
variable {answer? : Option (Except Fault Json)} {raised : Option FaultKind} {r : Record}
  {sent : List String}

theorem not_mem_fallback (h : Ledger answer? raised r sent) (hused : r.fallbackUsed = false) :
    .fallback ∉ r.states := fun hmem => by
  rw [h.fallbackUsed.mpr hmem] at hused
  cases hused

/-- Quiet states and the members that the ledger does not tell of can be set at will. -/
theorem quiet (h : Ledger answer? raised r sent) (r' : Record) (trail : List State)
    (hquiet : ∀ s ∈ trail, s.isQuiet = true) (hstates : r'.states = r.states ++ trail)
    (hused : r'.fallbackUsed = r.fallbackUsed) (hreason : r'.fallbackReason = r.fallbackReason)
    (hgenerated : r'.generatedSql = r.generatedSql) (hcleaned : r'.cleanedSql = r.cleanedSql)
    (hfinal : r'.finalSql = r.finalSql) : Ledger answer? raised r' sent := by
  have hnot : ∀ {s : State}, s.isQuiet = false → s ∉ trail := fun hs => State.not_mem_of_isQuiet hs hquiet
  have hmem : ∀ {s : State}, s.isQuiet = false → (s ∈ r.states ++ trail ↔ s ∈ r.states) := fun hs => by
    rw [List.mem_append, or_iff_left (hnot hs)]
  constructor
  · rw [hused, hstates, hmem rfl]
    exact h.fallbackUsed
  · rw [hreason, hstates, hmem rfl]
    exact h.fallbackReason
  · rw [hreason, hstates, State.beforeFallback_append (hnot rfl)]
    exact h.reason
  · rw [hstates, hmem rfl, hgenerated, hcleaned]
    exact h.answered
  · rw [hstates, hmem rfl, hgenerated, hcleaned]
    exact h.unanswered
  · rw [hstates, List.count_append, List.count_append, List.count_eq_zero_of_not_mem (hnot rfl),
      List.count_eq_zero_of_not_mem (hnot rfl)]
    exact h.sentCount
  · rw [hfinal]
    exact h.finalSql

/-- The model's answer is written down on the way to a verdict on it. -/
theorem judge (h : Ledger answer? raised r sent) {content : Json} {trail : List State}
    (hanswer : answer? = some (.ok content)) (hquiet : ∀ s ∈ trail, s.isQuiet = true) :
    Ledger answer? raised
      { r with
        generatedSql := content
        cleanedSql := some (Pipeline.normalizeContent content)
        states := r.states ++ .modelCalled :: trail } sent := by
  have hnot : ∀ {s : State}, s.isQuiet = false → s ≠ .modelCalled → s ∉ State.modelCalled :: trail :=
    fun hs hne => List.not_mem_cons_of_ne_of_not_mem hne (State.not_mem_of_isQuiet hs hquiet)
  have hfallback : State.fallback ∉ State.modelCalled :: trail := hnot rfl (by decide)
  have hmem : .fallback ∈ r.states ++ .modelCalled :: trail ↔ .fallback ∈ r.states := by
    rw [List.mem_append, or_iff_left hfallback]
  constructor
  · exact h.fallbackUsed.trans hmem.symm
  · exact h.fallbackReason.trans hmem.symm
  · exact h.reason.trans
      (congrArg (Option.bind · (State.reasonAfter raised)) (State.beforeFallback_append hfallback r.states).symm)
  · exact fun _ => ⟨content, hanswer, rfl, rfl⟩
  · intro hcalled
    exact absurd (List.mem_append_right r.states List.mem_cons_self) hcalled
  · rw [List.count_append, List.count_append, List.count_eq_zero_of_not_mem (hnot rfl (by decide)),
      List.count_eq_zero_of_not_mem (hnot rfl (by decide))]
    exact h.sentCount
  · exact h.finalSql

/-- The statement of the model is sent. -/
theorem execute (h : Ledger answer? raised r sent) (sql : String) :
    Ledger answer? raised { r with finalSql := some sql, states := r.states ++ [.executing] } (sent ++ [sql]) := by
  have hmem : ∀ {s : State}, s ≠ .executing →
      (s ∈ r.states ++ [.executing] ↔ s ∈ r.states) := fun hs => by
    rw [List.mem_append, List.mem_singleton, or_iff_left hs]
  have hfallback : State.fallback ∉ [State.executing] := by decide
  constructor
  · exact h.fallbackUsed.trans (hmem (by decide)).symm
  · exact h.fallbackReason.trans (hmem (by decide)).symm
  · exact h.reason.trans
      (congrArg (Option.bind · (State.reasonAfter raised)) (State.beforeFallback_append hfallback r.states).symm)
  · exact fun hcalled => h.answered ((hmem (by decide)).mp hcalled)
  · exact fun hcalled => h.unanswered fun hmem' => hcalled ((hmem (by decide)).mpr hmem')
  · have hexecuting : List.count State.executing [.executing] = 1 := by decide
    have hfallbackExecuting : List.count State.fallbackExecuting [.executing] = 0 := by decide
    rw [List.count_append, List.count_append, hexecuting, hfallbackExecuting, List.length_append, h.sentCount,
      List.length_singleton]
    omega
  · exact (List.getLast?_concat).symm

/-- A fallback statement is sent, once, for the reason that the state before gives. -/
theorem fallBack (h : Ledger answer? raised r sent) (hused : r.fallbackUsed = false) {s : State}
    {reason : FallbackReason} (hlast : r.states.getLast? = some s) (hreason : s.reasonAfter raised = some reason)
    (sql : String) :
    Ledger answer? raised
      { r with
        fallbackUsed := true
        fallbackReason := some reason
        finalSql := some sql
        states := r.states ++ [.fallback, .fallbackExecuting] } (sent ++ [sql]) := by
  have hfallback := h.not_mem_fallback hused
  have hmem : .fallback ∈ r.states ++ [.fallback, .fallbackExecuting] :=
    List.mem_append_right _ List.mem_cons_self
  have hcalled : .modelCalled ∈ r.states ++ [.fallback, .fallbackExecuting] ↔ .modelCalled ∈ r.states := by
    rw [List.mem_append, or_iff_left (by decide)]
  constructor
  · exact iff_of_true rfl hmem
  · exact iff_of_true rfl hmem
  · rw [State.beforeFallback_fallback hfallback hlast, Option.bind_some, hreason]
  · exact fun hmem' => h.answered (hcalled.mp hmem')
  · exact fun hmem' => h.unanswered fun hmem'' => hmem' (hcalled.mpr hmem'')
  · have hexecuting : List.count State.executing [.fallback, .fallbackExecuting] = 0 := by decide
    have hfallbackExecuting : List.count State.fallbackExecuting [.fallback, .fallbackExecuting] = 1 := by decide
    rw [List.count_append, List.count_append, hexecuting, hfallbackExecuting, List.length_append, h.sentCount]
    rfl
  · exact (List.getLast?_concat).symm

end Ledger

/-! ## Stages -/

/-- The ledger holds of a run, and the members of its record that only the end sets are unset. -/
structure Kept {σ : Type} (answer? : Option (Except Fault Json)) (raised : Option FaultKind) (run : Run σ) :
    Prop where
  ledger : Ledger answer? raised run.record (Pipeline.statements run.events)
  success : run.record.success = false
  error : run.record.error = none
  resultCount : run.record.resultCount = 0

namespace Pipeline
variable {σ : Type} {answer? : Option (Except Fault Json)} {raised : Option FaultKind}

theorem kept_begun (p : Pipeline σ) (timestamp generated : String) (question : Question)
    (cache : Schema.Cache Number Schema.Snapshot) (world : σ) :
    Kept answer? raised (p.begun timestamp generated question cache world) := by
  have hfallback : State.fallback ∉ [State.start] := by decide
  have hcalled : State.modelCalled ∉ [State.start] := by decide
  refine ⟨?_, rfl, rfl, rfl⟩
  constructor
  · exact iff_of_false Bool.false_ne_true hfallback
  · exact iff_of_false Bool.false_ne_true hfallback
  · rfl
  · exact fun hmem => absurd hmem hcalled
  · exact fun _ => ⟨rfl, rfl⟩
  · rfl
  · rfl

theorem kept_grounded {run grounded : Run σ} (hground : Grounded run grounded) (h : Kept answer? raised run) :
    Kept answer? raised grounded := by
  obtain ⟨⟨notes, hrecord⟩, n, hevents⟩ := hground
  have hsent : statements grounded.events = statements run.events := by
    rw [hevents, statements_append, statements_introspected, List.append_nil]
  have hquiet : ∀ s ∈ ([] : List State), s.isQuiet = true := fun _ hs => nomatch hs
  refine ⟨?_, ?_, ?_, ?_⟩
  · rw [hsent, hrecord]
    exact h.ledger.quiet _ [] hquiet (List.append_nil _).symm rfl rfl rfl rfl rfl
  · rw [hrecord]
    exact h.success
  · rw [hrecord]
    exact h.error
  · rw [hrecord]
    exact h.resultCount

theorem kept_prompted {run : Run σ} (h : Kept answer? raised run) : Kept answer? raised (run.walk [.prompted]) :=
  ⟨h.ledger.quiet _ [.prompted] (by decide) rfl rfl rfl rfl rfl rfl, h.success, h.error, h.resultCount⟩

theorem kept_asked {p : Pipeline σ} {prompt : String} {world : σ} {run : Run σ} (h : Kept answer? raised run) :
    Kept answer? raised (p.asked prompt world run) := by
  have hsent : statements (p.asked prompt world run).events = statements run.events := by
    unfold asked Run.within Run.emit
    rw [statements_append]
    exact List.append_nil _
  exact ⟨hsent ▸ h.ledger, h.success, h.error, h.resultCount⟩

theorem kept_abandoned {reason : FallbackReason} {message : String} {run : Run σ}
    (h : Kept answer? raised run) : Kept answer? raised (abandoned reason message run) := by
  unfold abandoned
  split
  · exact ⟨h.ledger.quiet _ [.modelFailed] (by decide) rfl rfl rfl rfl rfl rfl, h.success, h.error,
      h.resultCount⟩
  · exact ⟨h.ledger.quiet _ [] (by decide) (List.append_nil _).symm rfl rfl rfl rfl rfl, h.success,
      h.error, h.resultCount⟩

theorem isQuiet_trail (verdict : Verdict) : ∀ s ∈ verdict.trail, s.isQuiet = true := by
  cases verdict <;> simp [Verdict.trail, State.isQuiet]

theorem kept_judged {p : Pipeline σ} {content : Json} {run : Run σ} (h : Kept answer? raised run)
    (hanswer : answer? = some (.ok content)) : Kept answer? raised (p.judged content run) :=
  ⟨h.ledger.judge hanswer (isQuiet_trail _), h.success, h.error, h.resultCount⟩

theorem fallbackUsed_abandoned (reason : FallbackReason) (message : String) (run : Run σ) :
    (abandoned reason message run).record.fallbackUsed = run.record.fallbackUsed := by
  unfold abandoned
  split
  · rfl
  · rfl

/-- The state in which a request is given up tells why. -/
def TellsWhy (raised : Option FaultKind) (reason : FallbackReason) (states : List State) : Prop :=
  ∃ s, states.getLast? = some s ∧ s.reasonAfter raised = some reason

theorem tellsWhy_raised {p : Pipeline σ} {prompt : String} {run : Run σ} {fault : Fault}
    {reason : FallbackReason} {world : σ} (hlast : run.record.states.getLast? = some .prompted)
    (hraised : raised = some fault.kind) (hreason : abandonment? fault.kind = some reason) :
    TellsWhy raised reason
      (abandoned reason fault.message (p.asked prompt world run)).record.states := by
  unfold abandoned
  split
  · rename_i hunavailable
    subst hunavailable
    exact ⟨.modelFailed, List.getLast?_concat, rfl⟩
  · exact ⟨.prompted, hlast, by rw [hraised]; exact hreason⟩

theorem tellsWhy_refused {verdict : Verdict} {reason : FallbackReason} {message : String} {run : Run σ}
    (hrefused : verdict.refusal? = some (reason, message))
    {states : List State} (hstates : run.record.states = states ++ .modelCalled :: verdict.trail) :
    TellsWhy raised reason (abandoned reason message run).record.states := by
  have hkeep : reason ≠ .modelUnavailable → (abandoned reason message run).record.states =
      states ++ .modelCalled :: verdict.trail := fun hne => by
    unfold abandoned
    rw [if_neg hne]
    exact hstates
  cases verdict with
  | empty =>
    cases hrefused
    rw [hkeep (by decide)]
    exact ⟨.empty, List.getLast?_append_cons _ _ _, rfl⟩
  | rejected violation =>
    cases hrefused
    rw [hkeep (by decide)]
    exact ⟨.rejected, by simp [Verdict.trail], rfl⟩
  | badSyntax defect =>
    cases hrefused
    rw [hkeep (by decide)]
    exact ⟨.badSyntax, by simp [Verdict.trail], rfl⟩
  | accepted sql => cases hrefused

/-- Where the model step leaves a request: no fallback was taken, and one that has to be taken has its
reason. -/
theorem kept_attempt {p : Pipeline σ} {prompt : String} {run left : Run σ}
    {result : Except Fault (Except FallbackReason String)} (h : Attempt p prompt run (result, left))
    (hkept : Kept answer? raised run) (hlast : run.record.states.getLast? = some .prompted)
    (hanswer : answer? = some (p.collaborators.complete (p.requestFor prompt) run.world).1)
    (hraised : ∀ fault, (p.collaborators.complete (p.requestFor prompt) run.world).1 = .error fault →
      raised = some fault.kind) :
    Kept answer? raised left ∧ left.record.fallbackUsed = run.record.fallbackUsed ∧
      ∀ reason, result = .ok (.error reason) → TellsWhy raised reason left.record.states := by
  cases h with
  | crashed answer unforeseen =>
    refine ⟨kept_asked hkept, rfl, ?_⟩
    intro reason hreason
    cases hreason
  | raised answer foreseen =>
    refine ⟨kept_abandoned (kept_asked hkept), fallbackUsed_abandoned _ _ _, ?_⟩
    intro reason hreason
    cases hreason
    exact tellsWhy_raised hlast (hraised _ (by rw [answer])) foreseen
  | @refused content verdict reason message world answer judged refused =>
    subst judged
    rw [answer] at hanswer
    refine ⟨kept_abandoned (kept_judged (kept_asked hkept) hanswer), fallbackUsed_abandoned _ _ _, ?_⟩
    intro reason hreason
    cases hreason
    exact tellsWhy_refused refused rfl
  | accepted answer judged =>
    rw [answer] at hanswer
    refine ⟨kept_judged (kept_asked hkept) hanswer, rfl, ?_⟩
    intro reason hreason
    cases hreason

theorem statements_sentTo (sql : String) (world : σ) (run : Run σ) :
    statements (sentTo sql world run).events = statements run.events ++ [sql] :=
  statements_append _ _

theorem kept_fallenBack {p : Pipeline σ} {reason : FallbackReason} {run : Run σ}
    {outcome : Except Fault (List ResultRow) × Run σ} (h : FallenBack p reason run outcome)
    (hkept : Kept answer? raised run) (hused : run.record.fallbackUsed = false)
    (hreason : TellsWhy raised reason run.record.states) : Kept answer? raised outcome.2 := by
  cases h with
  | unavailable statement => exact hkept
  | @sent sql result world statement answer =>
    obtain ⟨s, hlast, hreason⟩ := hreason
    refine ⟨?_, hkept.success, hkept.error, hkept.resultCount⟩
    rw [statements_sentTo]
    exact hkept.ledger.fallBack hused hlast hreason sql

theorem kept_executed_run {sql : String} {world : σ} {run : Run σ} (hkept : Kept answer? raised run) :
    Kept answer? raised (executed sql world run) := by
  refine ⟨?_, hkept.success, hkept.error, hkept.resultCount⟩
  unfold executed
  rw [statements_sentTo]
  exact hkept.ledger.execute sql

theorem kept_executed {p : Pipeline σ} {sql : String} {run : Run σ}
    {outcome : Except Fault (List ResultRow) × Run σ} (h : Executed p sql run outcome)
    (hkept : Kept answer? raised run) (hused : run.record.fallbackUsed = false) :
    Kept answer? raised outcome.2 := by
  cases h with
  | rows answer => exact kept_executed_run hkept
  | failed answer unforeseen => exact kept_executed_run hkept
  | @fellBack fault world outcome answer foreseen fallback =>
    have hexecuted : Kept answer? raised (executed sql world run) := kept_executed_run hkept
    have hfailed : Kept answer? raised ((executed sql world run).walk [.execError]) :=
      ⟨hexecuted.ledger.quiet _ [.execError] (by decide) rfl rfl rfl rfl rfl rfl, hexecuted.success,
        hexecuted.error, hexecuted.resultCount⟩
    refine kept_fallenBack fallback (kept_abandoned hfailed) ?_ ⟨.execError, List.getLast?_concat, rfl⟩
    rw [fallbackUsed_abandoned]
    exact hused

/-! ## Whole requests -/

/-- What the members of a record have to do with its states, with the statements that were sent and with the
result of the request, given what the model answered. -/
structure Coherent (answer? : Option (Except Fault Json)) (raised : Option FaultKind)
    (result : Except Fault Reply) (sent : List String) (record : Record) : Prop
    extends Ledger answer? raised record sent where
  success : record.success = true ↔ record.states.getLast? = some .done
  error : record.success = true ↔ record.error = none
  succeeded : record.success = true → ∃ reply, result = .ok reply ∧ record.resultCount = reply.rows.length
  failed : record.success = false → record.resultCount = 0
  outcome : record.outcome =
    if record.states.getLast? = some .done then if .fallback ∈ record.states then .fallback else .success
    else .failure

theorem outcome_of_states {r : Record} (hsuccess : r.success = true ↔ r.states.getLast? = some .done)
    (hused : r.fallbackUsed = true ↔ .fallback ∈ r.states) :
    r.outcome =
      if r.states.getLast? = some .done then if .fallback ∈ r.states then .fallback else .success
      else .failure := by
  unfold Record.outcome
  simp only [hsuccess, hused]

/-- Where the work on a question leaves a record. -/
def IsReady (answer? : Option (Except Fault Json)) (raised : Option FaultKind) (run : Run σ) :
    Except Fault Reply → Prop
  | .ok reply => Coherent answer? raised (.ok reply) (statements run.events) run.record
  | .error _ => Kept answer? raised run

theorem isReady_settled {outcome : Except Fault (List ResultRow) × Run σ} (h : Kept answer? raised outcome.2) :
    IsReady answer? raised (settled outcome).2 (settled outcome).1 := by
  obtain ⟨fault | rows, left⟩ := outcome
  · exact h
  · have hledger := h.ledger.quiet (settled (.ok rows, left)).2.record [.done] (by decide)
      rfl rfl rfl rfl rfl rfl
    have hdone : (left.record.states ++ [State.done]).getLast? = some .done := List.getLast?_concat
    have hsuccess := iff_of_true (rfl : (settled (.ok rows, left)).2.record.success = true) hdone
    exact
      { hledger with
        success := hsuccess
        error := iff_of_true rfl h.error
        succeeded := fun _ => ⟨_, rfl, rfl⟩
        failed := fun hfailed => nomatch hfailed
        outcome := outcome_of_states hsuccess hledger.fallbackUsed }

theorem coherent_failed {run : Run σ} (h : Kept answer? raised run) (result : Except Fault Reply) (text : String) :
    Coherent answer? raised result (statements run.events) (failedRecord run.record text) := by
  have hledger := h.ledger.quiet (failedRecord run.record text) [.failed] (by decide)
    rfl rfl rfl rfl rfl rfl
  have hlast : (failedRecord run.record text).states.getLast? = some .failed := List.getLast?_concat
  have hnot : (failedRecord run.record text).states.getLast? ≠ some .done := by
    rw [hlast]
    decide
  have hsuccess := iff_of_false (Bool.false_ne_true : ¬(failedRecord run.record text).success = true) hnot
  exact
    { hledger with
      success := hsuccess
      error := iff_of_false Bool.false_ne_true (Option.some_ne_none text)
      succeeded := fun hsucceeded => nomatch hsucceeded
      failed := fun _ => h.resultCount
      outcome := outcome_of_states hsuccess hledger.fallbackUsed }

/-- The time that a request took is no part of what has to agree. -/
theorem coherent_timed {result : Except Fault Reply} {sent : List String} {r : Record}
    (h : Coherent answer? raised result sent r) (time : Number) :
    Coherent answer? raised result sent { r with executionTime := time } :=
  { h.toLedger.quiet { r with executionTime := time } [] (fun _ hs => nomatch hs)
      (List.append_nil _).symm rfl rfl rfl rfl rfl with
    success := h.success
    error := h.error
    succeeded := h.succeeded
    failed := h.failed
    outcome := h.outcome }

theorem coherent_finish {p : Pipeline σ} {started : Number} {run : Run σ} {r : Record}
    {result : Except Fault Reply} {entry : Json} (h : Coherent answer? raised result (statements run.events) r)
    (hrun : entries run.events = []) (haudited : .audited entry ∈ (p.finish started run r result).events) :
    ∃ record, (p.finish started run r result).record = some record ∧ entry = record.toEntry ∧
      Coherent answer? raised (p.finish started run r result).result
        (statements (p.finish started run r result).events) record := by
  rw [statements_finish]
  refine ⟨_, rfl, ?_, coherent_timed h _⟩
  rw [← mem_entries] at haudited
  unfold finish at haudited
  rw [entries_append, hrun, List.nil_append] at haudited
  exact List.mem_singleton.mp haudited

theorem coherent_conclude {p : Pipeline σ} {started : Number} {run : Run σ} {result : Except Fault Reply}
    {entry : Json} (h : IsReady answer? raised run result) (hrun : entries run.events = [])
    (haudited : .audited entry ∈ (p.conclude started result run).events) :
    ∃ record, (p.conclude started result run).record = some record ∧ entry = record.toEntry ∧
      Coherent answer? raised (p.conclude started result run).result
        (statements (p.conclude started result run).events) record := by
  unfold conclude at haudited ⊢
  cases result with
  | ok reply => exact coherent_finish h hrun haudited
  | error fault =>
    simp only at haudited ⊢
    split at haudited
    · rw [← mem_entries, hrun] at haudited
      cases haudited
    · rename_i hkind
      rw [if_neg hkind]
      split at haudited
      · rename_i hown
        rw [if_pos hown]
        exact coherent_finish (coherent_failed h _ _) hrun haudited
      · rename_i hown
        rw [if_neg hown]
        exact coherent_finish (coherent_failed h _ _) hrun haudited

/-- What the model step finds: the ledger holds, and the model answers what it answers to the question. -/
theorem kept_until_attempt {p : Pipeline σ} {question : Question} {run grounded left : Run σ} {text : String}
    {result : Except Fault (Except FallbackReason String)}
    (hkept : Kept (p.modelAnswer? question run) (p.modelFault? question run) run)
    (hused : run.record.fallbackUsed = false)
    (hprompt : Step.exec (p.buildPrompt question.history question.useIntrospection) run = (.ok text, grounded))
    (h : Attempt p text (grounded.walk [.prompted]) (result, left)) :
    Kept (p.modelAnswer? question run) (p.modelFault? question run) left ∧
      left.record.fallbackUsed = false ∧
      ∀ reason, result = .ok (.error reason) → TellsWhy (p.modelFault? question run) reason left.record.states := by
  have hground := grounds_buildPrompt p question.history question.useIntrospection run
  rw [hprompt] at hground
  obtain ⟨notes, hrecord⟩ := hground.record
  have hunused : grounded.record.fallbackUsed = false := by
    rw [hrecord]
    exact hused
  have hanswer := modelAnswer_of_prompt hprompt
  obtain ⟨hleft, hfallback, hwhy⟩ :=
    kept_attempt h (kept_prompted (kept_grounded hground hkept)) List.getLast?_concat hanswer
      (fun fault hfault => @modelFault_of_raised _ p question run grounded text fault hprompt hfault)
  exact ⟨hleft, hfallback.trans hunused, hwhy⟩

/-- Every course of a request keeps the ledger. -/
theorem isReady_course {p : Pipeline σ} {question : Question} {run : Run σ} {outcome : Except Fault Reply × Run σ}
    (h : Course p question run outcome)
    (hkept : Kept (p.modelAnswer? question run) (p.modelFault? question run) run)
    (hused : run.record.fallbackUsed = false) :
    IsReady (p.modelAnswer? question run) (p.modelFault? question run) outcome.2 outcome.1 := by
  cases h with
  | ungrounded prompt =>
    have hground := grounds_buildPrompt p question.history question.useIntrospection run
    rw [prompt] at hground
    exact kept_grounded hground hkept
  | crashed prompt attempt => exact (kept_until_attempt hkept hused prompt attempt).1
  | fellBack prompt attempt fallback =>
    obtain ⟨hleft, hunused, hwhy⟩ := kept_until_attempt hkept hused prompt attempt
    exact isReady_settled (kept_fallenBack fallback hleft hunused (hwhy _ rfl))
  | executed prompt attempt execution =>
    obtain ⟨hleft, hunused, -⟩ := kept_until_attempt hkept hused prompt attempt
    exact isReady_settled (kept_executed execution hleft hunused)

/-- Every record that reaches the audit log agrees with its states, with the statements that were sent, with
the model's answer and with the result of the request. -/
theorem record_coherent {p : Pipeline σ} {timestamp generated : String} {question : Question}
    {cache : Schema.Cache Number Schema.Snapshot} {world : σ} {entry : Json}
    (h : .audited entry ∈ (p.ask timestamp generated question cache world).events) :
    ∃ record, (p.ask timestamp generated question cache world).record = some record ∧
      entry = record.toEntry ∧
      Coherent (p.modelAnswer? question (p.begun timestamp generated question cache world))
        (p.modelFault? question (p.begun timestamp generated question cache world))
        (p.ask timestamp generated question cache world).result
        (statements (p.ask timestamp generated question cache world).events) record := by
  cases hblank : Text.isEmptyOrBlank (question.text.getD "").toList with
  | true =>
    rw [ask_of_blank hblank] at h
    cases h
  | false =>
    have hcourse := course_answer p question (p.begun timestamp generated question cache world)
    have hready := isReady_course hcourse (kept_begun p timestamp generated question cache world) rfl
    have hentries := entries_course hcourse
    rw [ask_of_not_blank hblank] at h ⊢
    exact coherent_conclude hready hentries h

theorem record_coherent_unaided :
    ∃ entry, .audited entry ∈ (unaided.ask "t" "id" unaidedQuestion ⟨none⟩ ()).events ∧
      ∃ record, (unaided.ask "t" "id" unaidedQuestion ⟨none⟩ ()).record = some record ∧
        entry = record.toEntry ∧
        Coherent (unaided.modelAnswer? unaidedQuestion (unaided.begun "t" "id" unaidedQuestion ⟨none⟩ ()))
          (unaided.modelFault? unaidedQuestion (unaided.begun "t" "id" unaidedQuestion ⟨none⟩ ()))
          (unaided.ask "t" "id" unaidedQuestion ⟨none⟩ ()).result
          (statements (unaided.ask "t" "id" unaidedQuestion ⟨none⟩ ()).events) record := by
  obtain ⟨entry, hentry⟩ : ∃ entry,
      (unaided.ask "t" "id" unaidedQuestion ⟨none⟩ ()).events.getLast? = some (.audited entry) := ⟨_, rfl⟩
  have hmem := List.mem_of_getLast? hentry
  exact ⟨entry, hmem, record_coherent hmem⟩

end Pipeline

end TenderQuery.Query
