import TenderQuery.Proofs.Query.Auditing

/-!
# The work behind the prompt

Once a request has a prompt it looks back no more: neither what it has done so far nor the notes that it has made nor
the cache matter to the rest of the work, nor when it was made and under which identifier.

- `Past` is what a request has left behind, and `Run.following` a run with a past before it.
- A step that forgets (`Step.Forgets`) comes to the same with any past, and leaves the past as it is. This is closed
  under the ways to put steps together, and `forgets_work` follows the text of the work.
- `same_work` compares the work of two pipelines in worlds that their models and databases cannot tell apart, each
  behind a past of its own, and `closing` is the record that the work leaves to the audit log.
-/
set_option autoImplicit false
namespace TenderQuery.Query

/-- What a request has left behind, and what tells it from others, by the time that it has a prompt. -/
structure Past where
  timestamp : String := ""
  requestId : Option String := none
  notes : List String := []
  events : List Event := []
  cache : Schema.Cache Number Schema.Snapshot := {}

/-- The record of a request with this past, of which `r` is what came behind it. -/
def Past.onto (past : Past) (r : Record) : Record :=
  { r with
    timestamp := past.timestamp
    requestId := past.requestId
    recoveredErrors := past.notes ++ r.recoveredErrors }

/-- The run with a past before it. -/
def Run.following {σ : Type} (past : Past) (run : Run σ) : Run σ where
  record := past.onto run.record
  cache := past.cache
  world := run.world
  events := past.events ++ run.events

theorem Past.onto_congr {r r' : Record} (hrecord : r'.labelled {} = r.labelled {})
    (hnotes : r'.recoveredErrors = r.recoveredErrors) (past : Past) : past.onto r' = past.onto r := by
  have honto : ∀ r, past.onto r =
      (r.labelled {}).labelled ⟨past.timestamp, past.requestId, past.notes ++ r.recoveredErrors⟩ := fun _ => rfl
  rw [honto, honto, hrecord, hnotes]

/-! ## Steps that forget -/

namespace Step
variable {σ α β : Type}

/-- The step comes to the same whatever was before it, and leaves the past as it is. -/
def Forgets (step : Step σ α) : Prop :=
  ∀ past run, exec step (run.following past) = ((exec step run).1, (exec step run).2.following past)

theorem forgets_pure (a : α) : Forgets (pure a : Step σ α) := fun _ _ => rfl

theorem forgets_throw (fault : Fault) : Forgets (throw fault : Step σ α) := fun _ _ => rfl

theorem Forgets.bind {step : Step σ α} {next : α → Step σ β} (hstep : step.Forgets)
    (hnext : ∀ a, (next a).Forgets) : Forgets (step >>= next) := by
  intro past run
  have h := hstep past run
  rw [exec_bind, exec_bind, h]
  generalize exec step run = outcome
  obtain ⟨fault | a, left⟩ := outcome
  · rfl
  · exact hnext a past left

theorem Forgets.tryCatch {step : Step σ α} {handler : Fault → Step σ α} (hstep : step.Forgets)
    (hhandler : ∀ fault, (handler fault).Forgets) : Forgets (tryCatch step handler) := by
  intro past run
  have h := hstep past run
  rw [exec_tryCatch, exec_tryCatch, h]
  generalize exec step run = outcome
  obtain ⟨fault | a, left⟩ := outcome
  · exact hhandler fault past left
  · rfl

theorem forgets_emit (event : Event) : Forgets (emit event : Step σ Unit) := by
  intro past run
  rw [exec_emit, exec_emit]
  unfold Run.following Run.emit
  rw [List.append_assoc]

/-- A change of the record that adds to the notes at most. -/
theorem forgets_update {f : Record → Record} (hf : ∀ (past : Past) r, f (past.onto r) = past.onto (f r)) :
    Forgets (update f : Step σ Unit) := by
  intro past run
  rw [exec_update, exec_update]
  unfold Run.following Run.update
  rw [hf]

theorem forgets_enter (state : State) : Forgets (enter state : Step σ Unit) := forgets_update fun _ _ => rfl

theorem forgets_call (f : σ → Except Fault α × σ) : Forgets (call f) := by
  intro past run
  rw [exec_call, exec_call]
  rfl

/-- What is read off the run may not depend on the past. -/
theorem forgets_get_bind {next : Run σ → Step σ α} (hread : ∀ past run, next (run.following past) = next run)
    (hnext : ∀ run, (next run).Forgets) : Forgets (get >>= next) := by
  intro past run
  rw [exec_bind, exec_bind, exec_get, exec_get]
  simp only
  rw [hread]
  exact hnext run past run

end Step

/-! ## The work -/

namespace Pipeline
open Step
variable {σ : Type}

theorem forgets_translate (p : Pipeline σ) (content : Json) : (p.translate content).Forgets := by
  intro past run
  rw [exec_translate, exec_translate]
  rfl

theorem forgets_askModel (p : Pipeline σ) (prompt : String) : (p.askModel prompt).Forgets := by
  unfold askModel
  refine (forgets_emit _).bind fun _ => (forgets_call _).bind fun content => ?_
  refine (forgets_enter _).bind fun _ => ?_
  exact (forgets_update fun _ _ => rfl).bind fun _ => p.forgets_translate content

theorem forgets_note (reason : FallbackReason) (message : String) :
    Forgets (note reason message : Step σ Unit) := by
  refine forgets_update fun past r => ?_
  unfold Past.onto
  rw [List.append_assoc]

theorem forgets_abandon (fault : Fault) : Forgets (abandon fault : Step σ FallbackReason) := by
  unfold abandon
  split
  · exact forgets_throw fault
  · rename_i reason _
    have hrest : Forgets (note reason fault.message >>= fun _ => pure reason : Step σ FallbackReason) :=
      (forgets_note _ _).bind fun _ => forgets_pure _
    dsimp only
    split
    · exact (forgets_enter _).bind fun _ => hrest
    · exact hrest

theorem forgets_modelStatement (p : Pipeline σ) (prompt : String) : (p.modelStatement prompt).Forgets := by
  unfold modelStatement
  refine Forgets.tryCatch ?_ fun fault => (forgets_abandon fault).bind fun _ => forgets_pure _
  exact (p.forgets_askModel prompt).bind fun _ => forgets_pure _

theorem forgets_execute (p : Pipeline σ) (sql : String) : (p.execute sql).Forgets :=
  (forgets_emit _).bind fun _ => forgets_call _

theorem forgets_executeFallback (p : Pipeline σ) (reason : FallbackReason) :
    (p.executeFallback reason).Forgets := by
  unfold executeFallback
  refine forgets_get_bind (fun _ _ => rfl) fun run => ?_
  simp only
  split
  · exact forgets_throw _
  · refine (forgets_enter _).bind fun _ => (forgets_update fun _ _ => rfl).bind fun _ => ?_
    refine (forgets_enter _).bind fun _ => (p.forgets_execute _).tryCatch fun fault => ?_
    split
    · exact forgets_throw _
    · exact forgets_throw _

theorem forgets_executePrimary (p : Pipeline σ) (sql : String) : (p.executePrimary sql).Forgets := by
  unfold executePrimary
  refine (forgets_enter _).bind fun _ => (forgets_update fun _ _ => rfl).bind fun _ => ?_
  refine (p.forgets_execute sql).tryCatch fun fault => ?_
  split
  · refine (forgets_enter _).bind fun _ => (forgets_note _ _).bind fun _ => ?_
    exact p.forgets_executeFallback _
  · exact forgets_throw _

/-- What a request does with its prompt does not depend on how it came by it. -/
theorem forgets_work (p : Pipeline σ) (prompt : String) : (p.work prompt).Forgets := by
  unfold work
  refine (forgets_enter _).bind fun _ => (p.forgets_modelStatement prompt).bind fun statement => ?_
  have hend : ∀ rows : List ResultRow, Forgets (do
      Step.update fun r => { r with resultCount := rows.length, success := true }
      Step.enter .done
      return answeredReply (← get).record rows : Step σ Reply) := by
    intro rows
    refine (forgets_update fun _ _ => rfl).bind fun _ => (forgets_enter _).bind fun _ => ?_
    exact forgets_get_bind (fun _ _ => rfl) fun _ => forgets_pure _
  cases statement with
  | ok sql => exact (p.forgets_executePrimary sql).bind hend
  | error reason => exact (p.forgets_executeFallback reason).bind hend

/-! ### Two pipelines -/

/-- The bond of two pipelines that come to the same in worlds that belong together. -/
def sameBond {τ : Type} (World : σ → τ → Prop) : Bond σ τ where
  World _ := World
  Alike := Eq
  Note := Eq

/-- Two pipelines of one configuration whose models and databases do the same in worlds that belong together. -/
structure WorksAlike {τ : Type} (World : σ → τ → Prop) (p : Pipeline σ) (q : Pipeline τ) : Prop where
  config : q.config = p.config
  complete : ∀ request,
    (sameBond World).Answers (p.collaborators.complete request) (q.collaborators.complete request)
  fetchAll : ∀ sql, (sameBond World).Answers (p.collaborators.fetchAll sql) (q.collaborators.fetchAll sql)

/-- The pipeline without what only a prompt or the end of a request needs. -/
def behindPrompt (p : Pipeline σ) : Pipeline σ where
  config := p.config
  collaborators :=
    { p.collaborators with
      introspect := none
      now := fun world => (.whole 0, world)
      cacheNow := fun world => (.whole 0, world) }

theorem work_behindPrompt (p : Pipeline σ) (prompt : String) : p.behindPrompt.work prompt = p.work prompt := rfl

theorem WorksAlike.joins {τ : Type} {World : σ → τ → Prop} {p : Pipeline σ} {q : Pipeline τ}
    (h : WorksAlike World p q) : (sameBond World).Joins p.behindPrompt q.behindPrompt where
  config := h.config
  kind _ _ halike := congrArg Fault.kind halike.symm
  alike _ := rfl
  exhausted _ _ halike := congrArg (fun f : Fault => (⟨.fallbackExhausted, f.message⟩ : Fault)) halike
  note _ _ halike label := congrArg (fun f : Fault => label ++ f.message) halike
  rules _ _ _ _ _ hworld := hworld
  complete := h.complete
  fetchAll := h.fetchAll
  introspect := .none
  now _ _ hworld := ⟨rfl, hworld⟩
  cacheNow _ _ hworld := ⟨rfl, hworld⟩

theorem onto_eq_of_related {τ : Type} {World : σ → τ → Prop} {ended : Option Fault}
    {run : Run σ} {run' : Run τ} (h : (sameBond World).Related ended run run') (past : Past) :
    past.onto run'.record = past.onto run.record :=
  past.onto_congr h.record (List.forall₂_eq_eq_eq ▸ h.notes).symm

/-- In worlds that belong together, the work on one prompt comes to one result and adds the same to two pasts. -/
theorem same_work {τ : Type} {World : σ → τ → Prop} {p : Pipeline σ} {q : Pipeline τ}
    (h : WorksAlike World p q)
    {run : Run σ} {run' : Run τ} (hrun : (sameBond World).Related none run run') (prompt : String)
    (past past' : Past) :
    ∃ (result : Except Fault Reply) (left : Run σ) (left' : Run τ),
      exec (p.work prompt) (run.following past) = (result, left.following past) ∧
      exec (q.work prompt) (run'.following past') = (result, left'.following past') ∧
      (sameBond World).Related none left left' := by
  have hagree := h.joins.couples_work prompt run run' hrun
  rw [work_behindPrompt, work_behindPrompt] at hagree
  have hforgets := p.forgets_work prompt past run
  have hforgets' := q.forgets_work prompt past' run'
  generalize exec (p.work prompt) run = outcome at hagree hforgets
  generalize exec (q.work prompt) run' = outcome' at hagree hforgets'
  cases hagree with
  | @ok reply left left' related => exact ⟨_, left, left', hforgets, hforgets', related⟩
  | @error fault fault' left left' alike related =>
    cases alike
    exact ⟨_, left, left', hforgets, hforgets',
      related.world, related.cache, related.events, related.notes, related.record⟩

/-! ## The end of a request -/

/-- What a request comes to, given the result of its work. -/
def outcome (result : Except Fault Reply) (r : Record) : Except Fault Reply :=
  match result with
  | .ok reply => .ok reply
  | .error fault => if fault.kind.isOwn then .ok (failedReply r) else .error fault

/-- The record that is handed to the audit log, but for the time that the request took; a cancelled request leaves
none. -/
def closing (result : Except Fault Reply) (r : Record) : Option Record :=
  match result with
  | .ok _ => some r
  | .error fault =>
    if fault.kind = .cancelled then none
    else some (failedRecord r (if fault.kind.isOwn then fault.message else fault.summary))

/-- The record with the time that the request has taken, in milliseconds. -/
def timed (p : Pipeline σ) (started : Number) (world : σ) (r : Record) : Record :=
  { r with executionTime := ((p.collaborators.now world).1 - started).mul (.whole 1000) }

/-- What a request comes to and does at its end. -/
structure Concludes (p : Pipeline σ) (started : Number) (result : Except Fault Reply) (run : Run σ)
    (answer : Answer σ) : Prop where
  comes : answer.result = outcome result run.record
  events : answer.events =
    run.events ++ (closing result run.record).toList.map fun r => .audited (p.timed started run.world r).toEntry
  cache : answer.cache = run.cache

theorem concludes (p : Pipeline σ) (started : Number) (result : Except Fault Reply) (run : Run σ) :
    Concludes p started result run (p.conclude started result run) := by
  cases result with
  | ok reply => exact ⟨rfl, rfl, rfl⟩
  | error fault =>
    by_cases hkind : fault.kind = .cancelled
    · have hown : ¬ fault.kind.isOwn = true := by rw [hkind]; decide
      rw [conclude_of_cancelled hkind]
      refine ⟨?_, ?_, rfl⟩
      · exact (if_neg hown).symm
      · unfold closing
        dsimp only
        rw [if_pos hkind]
        exact (List.append_nil _).symm
    · by_cases hown : fault.kind.isOwn = true
      · refine ⟨?_, ?_, ?_⟩ <;> simp only [conclude, outcome, closing, hkind, hown, if_true, if_false] <;> rfl
      · refine ⟨?_, ?_, ?_⟩ <;> simp only [conclude, outcome, closing, hkind, hown, if_false] <;> rfl

theorem outcome_onto (result : Except Fault Reply) (past : Past) (r : Record) :
    outcome result (past.onto r) = outcome result r := by
  cases result <;> rfl

theorem closing_onto (result : Except Fault Reply) (past : Past) (r : Record) :
    closing result (past.onto r) = (closing result r).map past.onto := by
  cases result with
  | ok reply => rfl
  | error fault =>
    unfold closing
    dsimp only
    split
    · rfl
    · rfl

/-- The requests that the model was asked. -/
def prompts (events : List Event) : List Model.Request :=
  events.filterMap fun | .prompted request => some request | _ => none

@[simp] theorem prompts_append (as bs : List Event) : prompts (as ++ bs) = prompts as ++ prompts bs :=
  List.filterMap_append

@[simp] theorem prompts_introspected (n : Nat) : prompts (List.replicate n .introspected) = [] := by
  simp [prompts]

section
variable {α : Type} (f : α → Json) (l : List α)

@[simp] theorem prompts_audited : prompts (l.map fun a => .audited (f a)) = [] := by
  simp [prompts]

@[simp] theorem statements_audited : statements (l.map fun a => .audited (f a)) = [] := by
  simp [statements]

@[simp] theorem entries_audited : entries (l.map fun a => .audited (f a)) = l.map f := by
  unfold entries
  rw [List.filterMap_map]
  exact congrFun List.filterMap_eq_map l

end

end Pipeline

end TenderQuery.Query
