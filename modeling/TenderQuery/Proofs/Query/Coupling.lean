import Mathlib.Data.List.Forall2
import TenderQuery.Proofs.Query.Course

/-!
# Two pipelines side by side

A `Bond` says how far two pipelines may differ: in their worlds, in the faults that their collaborators raise
and in what is noted of these. If the collaborators of two pipelines keep to a bond (`Joins`), so does every
step of the work: the runs stay related, and where one run fails the other fails too, with a fault of the same
kind (`couples_answer`). At what time a request comes and which identifier it bears does not matter to the work;
the records of two related runs differ in these `Labels` alone.

A cancellation ends the work wherever it comes from, so the worlds behind it are related in a way of their own.
-/
set_option autoImplicit false
namespace TenderQuery.Query

/-- What tells two records of one request apart that ran into different faults: when it was made, the identifier
that it was given, and the notes on the faults. -/
structure Labels where
  timestamp : String := ""
  requestId : Option String := none
  notes : List String := []

def Record.labelled (r : Record) (labels : Labels) : Record :=
  { r with
    timestamp := labels.timestamp
    requestId := labels.requestId
    recoveredErrors := labels.notes }

/-- A fault as the cancellation that it may be. -/
def cancellation? (fault : Fault) : Option Fault := if fault.kind = .cancelled then some fault else none

theorem cancellation_eq_none {fault : Fault} (h : fault.kind ≠ .cancelled) : cancellation? fault = none :=
  if_neg h

/-! ## Bonds -/

/-- How far two pipelines may differ. The worlds are related given the cancellation that has ended the work,
if one has. -/
structure Bond (σ τ : Type) where
  World : Option Fault → σ → τ → Prop
  Alike : Fault → Fault → Prop
  Note : String → String → Prop

/-- Two results that are one value or two faults, in two states that belong together. -/
inductive Agree {σ τ A B : Type} (bond : Bond σ τ) (State : Option Fault → A → B → Prop) {α : Type} :
    Except Fault α × A → Except Fault α × B → Prop where
  | ok {a : α} {state : A} {state' : B} (related : State none state state') :
      Agree bond State (.ok a, state) (.ok a, state')
  | error {fault fault' : Fault} {state : A} {state' : B} (alike : bond.Alike fault fault')
      (related : State (cancellation? fault) state state') :
      Agree bond State (.error fault, state) (.error fault', state')

namespace Bond
variable {σ τ α β : Type}

/-- Two runs that differ in their worlds and in the labels of their records. -/
structure Related (bond : Bond σ τ) (ended : Option Fault) (run : Run σ) (run' : Run τ) : Prop where
  world : bond.World ended run.world run'.world
  cache : run'.cache = run.cache
  events : run'.events = run.events
  notes : List.Forall₂ bond.Note run.record.recoveredErrors run'.record.recoveredErrors
  record : run'.record.labelled {} = run.record.labelled {}

/-- Two collaborators that give one answer or two faults of one kind in related worlds. -/
def Answers (bond : Bond σ τ) (f : σ → Except Fault α × σ) (g : τ → Except Fault α × τ) : Prop :=
  ∀ world world', bond.World none world world' → Agree bond bond.World (f world) (g world')

/-- Two clocks that show the same time in related worlds. -/
def Reads (bond : Bond σ τ) (f : σ → α × σ) (g : τ → α × τ) : Prop :=
  ∀ world world', bond.World none world world' →
    (g world').1 = (f world).1 ∧ bond.World none (f world).2 (g world').2

/-- Two steps that lead from related runs to related runs. -/
def Couples (bond : Bond σ τ) (step : Step σ α) (step' : Step τ α) : Prop :=
  ∀ run run', bond.Related none run run' →
    Agree bond bond.Related (Step.exec step run) (Step.exec step' run')

/-- A bond that the collaborators and the rules of two pipelines of one configuration keep to. -/
structure Joins (bond : Bond σ τ) (p : Pipeline σ) (q : Pipeline τ) : Prop where
  config : q.config = p.config
  kind : ∀ fault fault', bond.Alike fault fault' → fault'.kind = fault.kind
  alike : ∀ fault, bond.Alike fault fault
  exhausted : ∀ fault fault', bond.Alike fault fault' →
    bond.Alike ⟨.fallbackExhausted, fault.message⟩ ⟨.fallbackExhausted, fault'.message⟩
  note : ∀ fault fault', bond.Alike fault fault' →
    ∀ label, bond.Note (label ++ fault.message) (label ++ fault'.message)
  rules : ∀ question fault, Fallback.statement p.config.rules question = .error fault →
    ∀ world world', bond.World none world world' → bond.World (cancellation? fault) world world'
  complete : ∀ request, bond.Answers (p.collaborators.complete request) (q.collaborators.complete request)
  fetchAll : ∀ sql, bond.Answers (p.collaborators.fetchAll sql) (q.collaborators.fetchAll sql)
  introspect : Option.Rel bond.Answers p.collaborators.introspect q.collaborators.introspect
  now : bond.Reads p.collaborators.now q.collaborators.now
  cacheNow : bond.Reads p.collaborators.cacheNow q.collaborators.cacheNow

/-! ## Related runs -/

namespace Related
variable {bond : Bond σ τ} {ended : Option Fault} {run : Run σ} {run' : Run τ}

theorem of_none {fault : Fault} (h : fault.kind ≠ .cancelled) (hrun : bond.Related (cancellation? fault) run run') :
    bond.Related none run run' :=
  cancellation_eq_none h ▸ hrun

theorem read {γ : Type} (f : Record → γ) (hf : ∀ r labels, f (r.labelled labels) = f r)
    (h : bond.Related ended run run') : f run'.record = f run.record := by
  rw [← hf run'.record {}, ← hf run.record {}, h.record]

/-- A change of the record that has nothing to do with its labels. -/
theorem update {f : Record → Record} (hf : ∀ r labels, f (r.labelled labels) = (f r).labelled labels)
    (h : bond.Related ended run run') : bond.Related ended (run.update f) (run'.update f) := by
  have hkeep : ∀ r : Record, (f r).recoveredErrors = r.recoveredErrors := by
    intro r
    have h' := congrArg Record.recoveredErrors (hf r ⟨r.timestamp, r.requestId, r.recoveredErrors⟩)
    exact h'
  refine ⟨h.world, h.cache, h.events, ?_, ?_⟩
  · change List.Forall₂ bond.Note (f run.record).recoveredErrors (f run'.record).recoveredErrors
    rw [hkeep, hkeep]
    exact h.notes
  · change (f run'.record).labelled {} = (f run.record).labelled {}
    rw [← hf, ← hf, h.record]

theorem note {text text' : String} (hnote : bond.Note text text') (h : bond.Related ended run run') :
    bond.Related ended
      (run.update fun r => { r with recoveredErrors := r.recoveredErrors ++ [text] })
      (run'.update fun r => { r with recoveredErrors := r.recoveredErrors ++ [text'] }) := by
  refine ⟨h.world, h.cache, h.events, ?_, h.record⟩
  exact List.rel_append h.notes (.cons hnote .nil)

theorem walk (trail : List State) (h : bond.Related ended run run') :
    bond.Related ended (run.walk trail) (run'.walk trail) :=
  h.update fun _ _ => rfl

theorem emit (event : Event) (h : bond.Related ended run run') :
    bond.Related ended (run.emit event) (run'.emit event) :=
  ⟨h.world, h.cache, congrArg (· ++ [event]) h.events, h.notes, h.record⟩

theorem within {later : Option Fault} {world : σ} {world' : τ} (hworld : bond.World later world world')
    (h : bond.Related ended run run') : bond.Related later (run.within world) (run'.within world') :=
  ⟨hworld, h.cache, h.events, h.notes, h.record⟩

end Related

/-! ## Coupled steps -/

section
variable {bond : Bond σ τ}

theorem couples_pure (a : α) : bond.Couples (pure a) (pure a) := fun _ _ h => .ok h

theorem Couples.bind {step : Step σ α} {step' : Step τ α} {next : α → Step σ β} {next' : α → Step τ β}
    (hstep : bond.Couples step step') (hnext : ∀ a, bond.Couples (next a) (next' a)) :
    bond.Couples (step >>= next) (step' >>= next') := by
  intro run run' hrun
  have h := hstep run run' hrun
  rw [Step.exec_bind, Step.exec_bind]
  generalize Step.exec step run = outcome at h
  generalize Step.exec step' run' = outcome' at h
  cases h with
  | ok related => exact hnext _ _ _ related
  | error alike related => exact .error alike related

/-- The handlers are compared on related runs with two faults of one kind. -/
theorem Couples.tryCatch {step : Step σ α} {step' : Step τ α} {handler : Fault → Step σ α}
    {handler' : Fault → Step τ α} (hstep : bond.Couples step step')
    (hhandler : ∀ fault fault' run run', bond.Alike fault fault' →
      bond.Related (cancellation? fault) run run' →
      Agree bond bond.Related (Step.exec (handler fault) run) (Step.exec (handler' fault') run')) :
    bond.Couples (tryCatch step handler) (tryCatch step' handler') := by
  intro run run' hrun
  have h := hstep run run' hrun
  rw [Step.exec_tryCatch, Step.exec_tryCatch]
  generalize Step.exec step run = outcome at h
  generalize Step.exec step' run' = outcome' at h
  cases h with
  | ok related => exact .ok related
  | error alike related => exact hhandler _ _ _ _ alike related

theorem couples_get_bind {next : Run σ → Step σ α} {next' : Run τ → Step τ α}
    (h : ∀ run run', bond.Related none run run' → bond.Couples (next run) (next' run')) :
    bond.Couples (get >>= next) (get >>= next') := by
  intro run run' hrun
  rw [Step.exec_bind, Step.exec_bind]
  exact h run run' hrun run run' hrun

theorem couples_emit (event : Event) : bond.Couples (Step.emit event) (Step.emit event) :=
  fun _ _ h => .ok (h.emit event)

theorem couples_update {f : Record → Record} (hf : ∀ r labels, f (r.labelled labels) = (f r).labelled labels) :
    bond.Couples (Step.update f) (Step.update f) :=
  fun _ _ h => .ok (h.update hf)

theorem couples_enter (state : State) : bond.Couples (Step.enter state) (Step.enter state) :=
  fun _ _ h => .ok (h.walk [state])

theorem couples_store (cache : Schema.Cache Number Schema.Snapshot) :
    bond.Couples (modify fun run => { run with cache := cache } : Step σ Unit)
      (modify fun run => { run with cache := cache } : Step τ Unit) :=
  fun _ _ h => .ok ⟨h.world, rfl, h.events, h.notes, h.record⟩

theorem Reads.couples {f : σ → α × σ} {g : τ → α × τ} (h : bond.Reads f g) :
    bond.Couples (Step.observe f) (Step.observe g) := by
  intro run run' hrun
  obtain ⟨hvalue, hworld⟩ := h run.world run'.world hrun.world
  rw [Step.exec_observe, Step.exec_observe, hvalue]
  exact .ok (hrun.within hworld)

theorem Answers.couples {f : σ → Except Fault α × σ} {g : τ → Except Fault α × τ} (h : bond.Answers f g) :
    bond.Couples (Step.call f) (Step.call g) := by
  intro run run' hrun
  have hanswer := h run.world run'.world hrun.world
  rw [Step.exec_call, Step.exec_call]
  generalize f run.world = answer at hanswer
  generalize g run'.world = answer' at hanswer
  cases hanswer with
  | ok related => exact .ok (hrun.within related)
  | error alike related => exact .error alike (hrun.within related)

end

/-! ## The work of a pipeline -/

namespace Joins
open Pipeline
variable {bond : Bond σ τ} {p : Pipeline σ} {q : Pipeline τ}

theorem couples_load {f : σ → Except Fault Schema.Snapshot × σ} {g : τ → Except Fault Schema.Snapshot × τ}
    (h : bond.Answers f g) : bond.Couples (load f) (load g) :=
  (couples_emit _).bind fun _ => h.couples

theorem couples_cached (h : bond.Joins p q) (ttl : Number) : bond.Couples (p.cached? ttl) (q.cached? ttl) := by
  unfold cached?
  refine couples_get_bind fun run run' hrun => ?_
  rw [hrun.cache]
  split
  · exact couples_pure _
  · exact h.cacheNow.couples.bind fun _ => couples_pure _

theorem couples_snapshot (h : bond.Joins p q) {f : σ → Except Fault Schema.Snapshot × σ}
    {g : τ → Except Fault Schema.Snapshot × τ} (hintrospect : bond.Answers f g) :
    bond.Couples (p.snapshot f) (q.snapshot g) := by
  unfold snapshot
  rw [h.config]
  split
  · exact couples_load hintrospect
  · refine (h.couples_cached _).bind fun found => ?_
    split
    · exact couples_pure _
    · refine (h.couples_cached _).bind fun found => ?_
      split
      · exact couples_pure _
      · refine (couples_load hintrospect).bind fun loaded => ?_
        refine h.cacheNow.couples.bind fun now => ?_
        exact (couples_store _).bind fun _ => couples_pure _

theorem agree_degrade (h : bond.Joins p q) {fault fault' : Fault} {run : Run σ} {run' : Run τ}
    (halike : bond.Alike fault fault') (hrun : bond.Related (cancellation? fault) run run') :
    Agree bond bond.Related (Step.exec (p.degrade fault) run) (Step.exec (q.degrade fault') run') := by
  unfold degrade
  rw [h.config, h.kind fault fault' halike]
  split
  · rename_i hdegrade
    have hkind : fault.kind = .introspection := by
      simp only [Bool.and_eq_true, decide_eq_true_eq] at hdegrade
      exact hdegrade.1
    have hnone := hrun.of_none (by rw [hkind]; decide)
    exact .ok (hnone.note (h.note fault fault' halike _))
  · exact .error halike hrun

theorem couples_liveSchema (h : bond.Joins p q) (useIntrospection : Bool) :
    bond.Couples (p.liveSchema? useIntrospection) (q.liveSchema? useIntrospection) := by
  have hintrospect := h.introspect
  unfold liveSchema?
  generalize p.collaborators.introspect = introspect at hintrospect
  generalize q.collaborators.introspect = introspect' at hintrospect
  cases hintrospect with
  | none => exact couples_pure _
  | some hanswers =>
    simp only
    split
    · refine Couples.tryCatch ?_ fun _ _ _ _ halike hrun => h.agree_degrade halike hrun
      exact (h.couples_snapshot hanswers).bind fun _ => couples_pure _
    · exact couples_pure _

theorem couples_buildPrompt (h : bond.Joins p q) (history : List Prompt.Turn) (useIntrospection : Bool) :
    bond.Couples (p.buildPrompt history useIntrospection) (q.buildPrompt history useIntrospection) := by
  unfold buildPrompt
  refine (h.couples_liveSchema _).bind fun live => ?_
  refine couples_get_bind fun run run' hrun => ?_
  simp only
  rw [hrun.read (·.escapedQuestion) fun _ _ => rfl, h.config]
  split
  · exact couples_pure _
  · exact couples_pure _

theorem couples_translate (h : bond.Joins p q) (content : Json) :
    bond.Couples (p.translate content) (q.translate content) := by
  intro run run' hrun
  rw [exec_translate, exec_translate, h.config]
  have hleft : ∀ trail, bond.Related none
      ((run.update fun r => { r with cleanedSql := some (normalizeContent content) }).walk trail)
      ((run'.update fun r => { r with cleanedSql := some (normalizeContent content) }).walk trail) :=
    fun trail => Related.walk trail (hrun.update fun _ _ => rfl)
  cases judge p.config.policy content with
  | empty => exact .error (h.alike _) (hleft _)
  | rejected violation => exact .error (h.alike _) (hleft _)
  | badSyntax defect => exact .error (h.alike _) (hleft _)
  | accepted sql => exact .ok (hleft _)

theorem couples_askModel (h : bond.Joins p q) (prompt : String) :
    bond.Couples (p.askModel prompt) (q.askModel prompt) := by
  unfold askModel
  rw [h.config]
  refine (couples_emit _).bind fun _ => ?_
  refine (h.complete _).couples.bind fun content => ?_
  refine (couples_enter _).bind fun _ => ?_
  exact (couples_update fun _ _ => rfl).bind fun _ => h.couples_translate content

theorem agree_abandon (h : bond.Joins p q) {fault fault' : Fault} {run : Run σ} {run' : Run τ}
    (halike : bond.Alike fault fault') (hrun : bond.Related (cancellation? fault) run run') :
    Agree bond bond.Related (Step.exec (abandon fault) run) (Step.exec (abandon fault') run') := by
  have hkind := h.kind fault fault' halike
  cases hreason : abandonment? fault.kind with
  | none =>
    rw [exec_abandon_of_unforeseen hreason, exec_abandon_of_unforeseen (hkind ▸ hreason)]
    exact .error halike hrun
  | some reason =>
    have hnone : bond.Related none run run' := hrun.of_none fun hcancelled => by
      rw [hcancelled] at hreason
      cases hreason
    have hnote := h.note fault fault' halike (reason.label ++ ": ")
    rw [exec_abandon_of_foreseen hreason, exec_abandon_of_foreseen (hkind ▸ hreason)]
    refine .ok ?_
    unfold abandoned
    split
    · exact (hnone.walk _).note hnote
    · exact hnone.note hnote

theorem couples_modelStatement (h : bond.Joins p q) (prompt : String) :
    bond.Couples (p.modelStatement prompt) (q.modelStatement prompt) := by
  unfold modelStatement
  refine Couples.tryCatch ((h.couples_askModel prompt).bind fun _ => couples_pure _) ?_
  intro fault fault' run run' halike hrun
  have habandon := h.agree_abandon halike hrun
  rw [Step.exec_bind, Step.exec_bind]
  generalize Step.exec (abandon fault) run = outcome at habandon
  generalize Step.exec (abandon fault') run' = outcome' at habandon
  cases habandon with
  | ok related => exact .ok related
  | error alike related => exact .error alike related

theorem couples_execute (h : bond.Joins p q) (sql : String) :
    bond.Couples (p.execute sql) (q.execute sql) :=
  (couples_emit _).bind fun _ => (h.fetchAll sql).couples

theorem couples_executeFallback (h : bond.Joins p q) (reason : FallbackReason) :
    bond.Couples (p.executeFallback reason) (q.executeFallback reason) := by
  unfold executeFallback
  refine couples_get_bind fun run run' hrun => ?_
  simp only
  rw [hrun.read (·.question) fun _ _ => rfl, h.config]
  split
  · rename_i fault hstatement
    intro run run' hrun
    exact .error (h.alike fault) ⟨h.rules _ _ hstatement _ _ hrun.world, hrun.cache, hrun.events, hrun.notes,
      hrun.record⟩
  · refine (couples_enter _).bind fun _ => ?_
    refine (couples_update fun _ _ => rfl).bind fun _ => ?_
    refine (couples_enter _).bind fun _ => ?_
    refine Couples.tryCatch (h.couples_execute _) ?_
    intro fault fault' run run' halike hrun
    rw [h.kind fault fault' halike]
    split
    · rename_i hkind
      exact .error (h.exhausted fault fault' halike) (hrun.of_none (by rw [hkind]; decide))
    · exact .error halike hrun

theorem couples_executePrimary (h : bond.Joins p q) (sql : String) :
    bond.Couples (p.executePrimary sql) (q.executePrimary sql) := by
  unfold executePrimary
  refine (couples_enter _).bind fun _ => ?_
  refine (couples_update fun _ _ => rfl).bind fun _ => ?_
  refine Couples.tryCatch (h.couples_execute sql) ?_
  intro fault fault' run run' halike hrun
  rw [h.kind fault fault' halike]
  split
  · rename_i hkind
    have hnone := hrun.of_none (by rw [hkind]; decide)
    have hnote := h.note fault fault' halike (FallbackReason.executionError.label ++ ": ")
    exact h.couples_executeFallback _ _ _ ((hnone.walk [.execError]).note hnote)
  · exact .error halike hrun

theorem couples_work (h : bond.Joins p q) (prompt : String) : bond.Couples (p.work prompt) (q.work prompt) := by
  unfold work
  refine (couples_enter _).bind fun _ => ?_
  refine (h.couples_modelStatement prompt).bind fun statement => ?_
  have hend : ∀ rows : List ResultRow, bond.Couples
      (do
        Step.update fun r => { r with resultCount := rows.length, success := true }
        Step.enter .done
        return answeredReply (← get).record rows)
      (do
        Step.update fun r => { r with resultCount := rows.length, success := true }
        Step.enter .done
        return answeredReply (← get).record rows) := by
    intro rows
    refine (couples_update fun _ _ => rfl).bind fun _ => ?_
    refine (couples_enter _).bind fun _ => ?_
    refine couples_get_bind fun run run' hrun => ?_
    rw [hrun.read (answeredReply · rows) fun _ _ => rfl]
    exact couples_pure _
  cases statement with
  | ok sql => exact (h.couples_executePrimary sql).bind hend
  | error reason => exact (h.couples_executeFallback reason).bind hend

/-- The work on a question keeps two joined pipelines together. -/
theorem couples_answer (h : bond.Joins p q) (question : Question) :
    bond.Couples (p.answer question) (q.answer question) := by
  rw [answer_eq, answer_eq]
  exact (h.couples_buildPrompt _ _).bind fun prompt => h.couples_work prompt

end Joins

end Bond

end TenderQuery.Query
