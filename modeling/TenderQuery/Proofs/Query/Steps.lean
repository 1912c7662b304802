import TenderQuery.Query.Pipeline

/-!
# Steps

A `Step` is run by `Step.exec`, which gives its result and the run that it leaves; the equations of `exec`
follow the text of a step. `Grounded` says what the search for a schema may do to a run, and `grounds_*` that
no part of it does more.
-/
set_option autoImplicit false
namespace TenderQuery.Query

/-! ## Runs -/

namespace Run
variable {σ : Type}

def update (f : Record → Record) (run : Run σ) : Run σ := { run with record := f run.record }

def walk (trail : List State) (run : Run σ) : Run σ :=
  run.update fun r => { r with states := r.states ++ trail }

def emit (event : Event) (run : Run σ) : Run σ := { run with events := run.events ++ [event] }

def within (world : σ) (run : Run σ) : Run σ := { run with world := world }

@[simp] theorem walk_events (trail : List State) (run : Run σ) : (run.walk trail).events = run.events := rfl

@[simp] theorem walk_states (trail : List State) (run : Run σ) :
    (run.walk trail).record.states = run.record.states ++ trail := rfl

@[simp] theorem walk_walk (first second : List State) (run : Run σ) :
    (run.walk first).walk second = run.walk (first ++ second) := by
  simp only [walk, update, List.append_assoc]

end Run

/-! ## The calculus of steps -/

namespace Step
variable {σ α β : Type}

/-- The result of a step on a run, and the run that it leaves. -/
def exec (step : Step σ α) (run : Run σ) : Except Fault α × Run σ := step.run run

@[simp] theorem exec_pure (a : α) (run : Run σ) : exec (pure a) run = (.ok a, run) := rfl

@[simp] theorem exec_throw (fault : Fault) (run : Run σ) :
    exec (throw fault : Step σ α) run = (.error fault, run) := rfl

theorem exec_bind (step : Step σ α) (next : α → Step σ β) (run : Run σ) :
    exec (step >>= next) run =
      match exec step run with
      | (.ok a, run) => exec (next a) run
      | (.error fault, run) => (.error fault, run) := by
  change StateT.bind step.run (ExceptT.bindCont next) run = _
  unfold StateT.bind exec
  obtain ⟨result, left⟩ : Except Fault α × Run σ := step.run run
  cases result with
  | ok a => rfl
  | error fault => rfl

theorem exec_tryCatch (step : Step σ α) (handler : Fault → Step σ α) (run : Run σ) :
    exec (tryCatch step handler) run =
      match exec step run with
      | (.ok a, run) => (.ok a, run)
      | (.error fault, run) => exec (handler fault) run := by
  unfold exec ExceptT.run
  simp only [tryCatch, tryCatchThe, MonadExceptOf.tryCatch, ExceptT.tryCatch, ExceptT.mk, bind, StateT.bind]
  generalize step run = outcome
  obtain ⟨a | fault, left⟩ := outcome
  · rfl
  · rfl

theorem exec_bind_of_ok {step : Step σ α} {next : α → Step σ β} {run run' : Run σ} {a : α}
    (h : exec step run = (.ok a, run')) : exec (step >>= next) run = exec (next a) run' := by
  rw [exec_bind, h]

theorem exec_bind_of_error {step : Step σ α} {next : α → Step σ β} {run run' : Run σ} {fault : Fault}
    (h : exec step run = (.error fault, run')) : exec (step >>= next) run = (.error fault, run') := by
  rw [exec_bind, h]

@[simp] theorem exec_get (run : Run σ) : exec (get : Step σ (Run σ)) run = (.ok run, run) := rfl

@[simp] theorem exec_emit (event : Event) (run : Run σ) :
    exec (emit event) run = (.ok (), run.emit event) := rfl

@[simp] theorem exec_update (f : Record → Record) (run : Run σ) :
    exec (update f) run = (.ok (), run.update f) := rfl

@[simp] theorem exec_enter (state : State) (run : Run σ) :
    exec (enter state) run = (.ok (), run.walk [state]) := rfl

@[simp] theorem exec_observe (f : σ → α × σ) (run : Run σ) :
    exec (observe f) run = (.ok (f run.world).1, run.within (f run.world).2) := rfl

@[simp] theorem exec_call (f : σ → Except Fault α × σ) (run : Run σ) :
    exec (call f) run = ((f run.world).1, run.within (f run.world).2) := by
  unfold call
  rw [exec_bind, exec_observe]
  cases (f run.world).1 <;> rfl

theorem exec_call_of_eq {f : σ → Except Fault α × σ} {run : Run σ} {result : Except Fault α} {world : σ}
    (h : f run.world = (result, world)) : exec (call f) run = (result, run.within world) := by
  rw [exec_call, h]

end Step

/-! ## The search for a schema -/

/-- What the search for a schema may do to a run: ask the introspector, note what it failed with, and use
the clocks and the cache. -/
structure Grounded {σ : Type} (before after : Run σ) : Prop where
  record : ∃ notes, after.record =
    { before.record with recoveredErrors := before.record.recoveredErrors ++ notes }
  events : ∃ n, after.events = before.events ++ List.replicate n .introspected

namespace Grounded
variable {σ : Type}

theorem refl (run : Run σ) : Grounded run run :=
  ⟨⟨[], by rw [List.append_nil]⟩, ⟨0, by rw [List.replicate_zero, List.append_nil]⟩⟩

theorem of_eq {before after : Run σ} (hrecord : after.record = before.record)
    (hevents : after.events = before.events) : Grounded before after := by
  obtain ⟨hr, he⟩ := refl before
  exact ⟨hrecord ▸ hr, hevents ▸ he⟩

theorem trans {first second third : Run σ} (h : Grounded first second) (h' : Grounded second third) :
    Grounded first third := by
  obtain ⟨⟨notes, hr⟩, n, he⟩ := h
  obtain ⟨⟨notes', hr'⟩, n', he'⟩ := h'
  refine ⟨⟨notes ++ notes', ?_⟩, n + n', ?_⟩
  · rw [hr', hr]
    simp only [List.append_assoc]
  · rw [he', he, List.append_assoc, List.replicate_append_replicate]

end Grounded

namespace Step
variable {σ α β : Type}

/-- Whatever the step comes to, it does no more to a run than the search for a schema may. -/
def Grounds (step : Step σ α) : Prop := ∀ run, Grounded run (exec step run).2

theorem Grounds.bind {step : Step σ α} {next : α → Step σ β} (hstep : step.Grounds)
    (hnext : ∀ a, (next a).Grounds) : Grounds (step >>= next) := by
  intro run
  have h := hstep run
  rw [exec_bind]
  generalize exec step run = outcome at h
  obtain ⟨fault | a, left⟩ := outcome
  · exact h
  · exact h.trans (hnext a left)

theorem Grounds.tryCatch {step : Step σ α} {handler : Fault → Step σ α} (hstep : step.Grounds)
    (hhandler : ∀ fault, (handler fault).Grounds) : Grounds (tryCatch step handler) := by
  intro run
  have h := hstep run
  rw [exec_tryCatch]
  generalize exec step run = outcome at h
  obtain ⟨fault | a, left⟩ := outcome
  · exact h.trans (hhandler fault left)
  · exact h

theorem grounds_pure (a : α) : Grounds (pure a : Step σ α) := fun run => .refl run

theorem grounds_throw (fault : Fault) : Grounds (throw fault : Step σ α) := fun run => .refl run

theorem grounds_observe (f : σ → α × σ) : Grounds (observe f) := fun _ => .of_eq rfl rfl

theorem grounds_call (f : σ → Except Fault α × σ) : Grounds (call f) := by
  intro run
  rw [exec_call]
  exact .of_eq rfl rfl

end Step

namespace Pipeline
variable {σ : Type}

theorem grounds_load (introspect : σ → Except Fault Schema.Snapshot × σ) : (load introspect).Grounds := by
  unfold load
  refine Step.Grounds.bind (fun run => ?_) (fun _ => Step.grounds_call introspect)
  exact ⟨⟨[], by rw [List.append_nil]; rfl⟩, 1, rfl⟩

theorem grounds_cached (p : Pipeline σ) (ttl : Number) : (p.cached? ttl).Grounds := by
  unfold cached?
  refine Step.Grounds.bind (fun run => .refl run) (fun run => ?_)
  split
  · exact Step.grounds_pure _
  · exact (Step.grounds_observe _).bind fun _ => Step.grounds_pure _

theorem grounds_snapshot (p : Pipeline σ) (introspect : σ → Except Fault Schema.Snapshot × σ) :
    (p.snapshot introspect).Grounds := by
  unfold snapshot
  split
  · exact grounds_load introspect
  · refine (grounds_cached p _).bind fun found => ?_
    split
    · exact Step.grounds_pure _
    · refine (grounds_cached p _).bind fun found => ?_
      split
      · exact Step.grounds_pure _
      · refine (grounds_load introspect).bind fun loaded => ?_
        refine (Step.grounds_observe _).bind fun now => ?_
        exact Step.Grounds.bind (fun _ => .of_eq rfl rfl) fun _ => Step.grounds_pure _

theorem grounds_degrade (p : Pipeline σ) (fault : Fault) : (p.degrade fault).Grounds := by
  unfold degrade
  split
  · refine Step.Grounds.bind (fun run => ?_) fun _ => Step.grounds_pure _
    exact ⟨⟨_, rfl⟩, 0, by rw [List.replicate_zero, List.append_nil]; rfl⟩
  · exact Step.grounds_throw fault

theorem grounds_liveSchema (p : Pipeline σ) (useIntrospection : Bool) :
    (p.liveSchema? useIntrospection).Grounds := by
  unfold liveSchema?
  split
  · split
    · refine Step.Grounds.tryCatch ?_ (grounds_degrade p)
      exact (grounds_snapshot p _).bind fun _ => Step.grounds_pure _
    · exact Step.grounds_pure _
  · exact Step.grounds_pure _

theorem grounds_buildPrompt (p : Pipeline σ) (history : List Prompt.Turn) (useIntrospection : Bool) :
    (p.buildPrompt history useIntrospection).Grounds := by
  unfold buildPrompt
  refine (grounds_liveSchema p _).bind fun live => ?_
  refine Step.Grounds.bind (fun run => .refl run) fun run => ?_
  split
  · exact Step.grounds_pure _
  · exact Step.grounds_pure _

end Pipeline

end TenderQuery.Query
