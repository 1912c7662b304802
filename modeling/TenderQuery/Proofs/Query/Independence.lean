import TenderQuery.Proofs.Query.Closing
import TenderQuery.Proofs.Query.Degrading

/-!
# Requests do not depend on each other

The requests of one pipeline share the cache and whatever the world is. If the model answers by the prompt, the
database by the statement, and the introspector always finds the same snapshot (`Pipeline.IsDetermined`), then the
cache can hold nothing but this snapshot, and each request comes to what it comes to `alone`: on a pipeline without a
state, with an empty cache.

- `Answer.seen` is what can be seen of a request, times and generated identifiers apart.
- `seen_ask` says so of one request in any state, and `requests_independent` of all requests in any order.
-/
set_option autoImplicit false
namespace TenderQuery.Query
open Schema (Cache Snapshot)

namespace Pipeline
open Step
variable {σ : Type}

/-! ## Collaborators without a memory -/

/-- What a world can be asked, with the same answers at all times. -/
structure Oracle where
  model : Model.Request → Except Fault Json
  database : String → Except Fault (List ResultRow)
  snapshot : Snapshot

/-- The answers of the collaborators do not depend on the world; what they do to it does not matter. -/
structure IsDetermined (p : Pipeline σ) (oracle : Oracle) : Prop where
  complete : ∀ request world, (p.collaborators.complete request world).1 = oracle.model request
  fetchAll : ∀ sql world, (p.collaborators.fetchAll sql world).1 = oracle.database sql
  introspect : ∀ introspect ∈ p.collaborators.introspect, ∀ world, (introspect world).1 = .ok oracle.snapshot

/-- The pipeline in a world without a state. -/
def alone (p : Pipeline σ) (oracle : Oracle) : Pipeline Unit where
  config := p.config
  collaborators :=
    { complete := fun request world => (oracle.model request, world)
      fetchAll := fun sql world => (oracle.database sql, world)
      introspect := p.collaborators.introspect.map fun _ world => (.ok oracle.snapshot, world)
      now := fun world => (.whole 0, world)
      cacheNow := fun world => (.whole 0, world) }

theorem isDetermined_alone (p : Pipeline σ) (oracle : Oracle) : (p.alone oracle).IsDetermined oracle where
  complete _ _ := rfl
  fetchAll _ _ := rfl
  introspect := by
    rintro introspect hintrospect world
    obtain ⟨-, -, rfl⟩ := Option.map_eq_some_iff.mp hintrospect
    rfl

theorem answers_of_eq {τ α : Type} {f : σ → Except Fault α × σ} {g : τ → Except Fault α × τ}
    {result : Except Fault α} (hf : ∀ world, (f world).1 = result) (hg : ∀ world, (g world).1 = result) :
    (sameBond fun _ _ => True).Answers f g := by
  intro world world' _
  have hanswer := hf world
  have hanswer' := hg world'
  generalize f world = answer at hanswer
  generalize g world' = answer' at hanswer'
  obtain ⟨found, left⟩ := answer
  obtain ⟨found', left'⟩ := answer'
  cases hanswer
  cases hanswer'
  cases found with
  | ok a => exact .ok trivial
  | error fault => exact .error rfl trivial

theorem IsDetermined.worksAlike {p : Pipeline σ} {oracle : Oracle} (h : p.IsDetermined oracle) :
    WorksAlike (fun _ _ => True) p (p.alone oracle) where
  config := rfl
  complete request := answers_of_eq (h.complete request) fun _ => rfl
  fetchAll sql := answers_of_eq (h.fetchAll sql) fun _ => rfl

/-! ## The prompt -/

/-- The cache holds the snapshot or nothing. -/
def HoldsOnly (snapshot : Snapshot) (cache : Cache Number Snapshot) : Prop :=
  ∀ stored ∈ cache.stored, stored.1 = snapshot

theorem HoldsOnly.eq_of_fresh {snapshot found : Snapshot} {cache : Cache Number Snapshot}
    (h : HoldsOnly snapshot cache) {ttl now : Number} (hfound : cache.fresh? ttl now = some found) :
    found = snapshot := by
  unfold Cache.fresh? at hfound
  split at hfound
  · rename_i stored loadedAt hstored
    split at hfound
    · rw [← Option.some.inj hfound]
      exact h _ hstored
    · cases hfound
  · cases hfound

theorem holdsOnly_empty (snapshot : Snapshot) : HoldsOnly snapshot {} := fun _ h => by cases h

/-- What the search for a schema does to a run if the introspector always finds the snapshot. -/
structure Explored (snapshot : Snapshot) (run run' : Run σ) : Prop where
  record : run'.record = run.record
  cache : HoldsOnly snapshot run'.cache
  events : ∃ n, run'.events = run.events ++ List.replicate n .introspected

theorem Explored.refl {snapshot : Snapshot} {run : Run σ} (h : HoldsOnly snapshot run.cache) :
    Explored snapshot run run :=
  ⟨rfl, h, 0, (List.append_nil _).symm⟩

theorem explored_look {snapshot : Snapshot} {run : Run σ} (p : Pipeline σ) (h : HoldsOnly snapshot run.cache) :
    Explored snapshot run (run.within (p.afterLook run.cache run.world)) :=
  ⟨rfl, h, 0, (List.append_nil _).symm⟩

theorem exec_load_of_found {introspect : σ → Except Fault Snapshot × σ} {snapshot : Snapshot}
    (h : ∀ world, (introspect world).1 = .ok snapshot) (run : Run σ) :
    exec (load introspect) run = (.ok snapshot, (run.emit .introspected).within (introspect run.world).2) := by
  rw [exec_load, h]

/-- The snapshot comes from the cache or from the introspector, which is the same. -/
theorem exists_snapshot (p : Pipeline σ) {introspect : σ → Except Fault Snapshot × σ} {snapshot : Snapshot}
    (hintrospect : ∀ world, (introspect world).1 = .ok snapshot) {run : Run σ} (h : HoldsOnly snapshot run.cache) :
    ∃ run', exec (p.snapshot introspect) run = (.ok snapshot, run') ∧ Explored snapshot run run' := by
  unfold Pipeline.snapshot
  cases p.config.cacheTtl with
  | none => exact ⟨_, exec_load_of_found hintrospect run, rfl, h, 1, rfl⟩
  | some ttl =>
    dsimp only
    rw [exec_bind, exec_cached]
    cases hfirst : run.cache.fresh? ttl (p.collaborators.cacheNow run.world).1 with
    | some found =>
      rw [h.eq_of_fresh hfirst]
      exact ⟨_, rfl, explored_look p h⟩
    | none =>
      dsimp only
      rw [exec_bind, exec_cached]
      generalize hlooked : run.within (p.afterLook run.cache run.world) = looked
      have hcache : HoldsOnly snapshot looked.cache := hlooked ▸ h
      have hlook : Explored snapshot run looked := hlooked ▸ explored_look p h
      cases hsecond : looked.cache.fresh? ttl (p.collaborators.cacheNow looked.world).1 with
      | some found =>
        rw [hcache.eq_of_fresh hsecond]
        exact ⟨_, rfl, hlook.record, hcache, hlook.events⟩
      | none =>
        dsimp only
        rw [exec_bind_of_ok (exec_load_of_found hintrospect _)]
        obtain ⟨n, hn⟩ := hlook.events
        refine ⟨_, rfl, hlook.record, ?_, n + 1, ?_⟩
        · rintro stored ⟨⟩
          rfl
        · change looked.events ++ [.introspected] = _
          rw [hn, List.append_assoc, List.replicate_succ']

/-- The snapshot that a prompt is grounded in, if it is grounded in one. -/
def grounding (p : Pipeline σ) (oracle : Oracle) (useIntrospection : Bool) : Option Snapshot :=
  if useIntrospection then p.collaborators.introspect.map fun _ => oracle.snapshot else none

theorem exists_liveSchema {p : Pipeline σ} {oracle : Oracle} (h : p.IsDetermined oracle) (useIntrospection : Bool)
    {run : Run σ} (hcache : HoldsOnly oracle.snapshot run.cache) :
    ∃ run', exec (p.liveSchema? useIntrospection) run = (.ok (p.grounding oracle useIntrospection), run') ∧
      Explored oracle.snapshot run run' := by
  have hintrospect := h.introspect
  unfold liveSchema? grounding
  generalize p.collaborators.introspect = source at hintrospect ⊢
  cases source with
  | none => exact ⟨run, by cases useIntrospection <;> rfl, .refl hcache⟩
  | some introspect =>
    cases useIntrospection with
    | false => exact ⟨run, rfl, .refl hcache⟩
    | true =>
      obtain ⟨run', hexec, hrun'⟩ := p.exists_snapshot (hintrospect introspect rfl) hcache
      refine ⟨run', ?_, hrun'⟩
      simp only [if_true]
      rw [exec_tryCatch, exec_bind_of_ok hexec]
      rfl

/-- The prompt for a question as the record keeps it. -/
def promptOn (p : Pipeline σ) (live : Option Snapshot) (escaped : String) (history : List Prompt.Turn) : String :=
  match live with
  | some snapshot => p.config.composer.compose escaped snapshot history
  | none => p.config.composer.composeStatic escaped history

theorem exists_buildPrompt {p : Pipeline σ} {oracle : Oracle} (h : p.IsDetermined oracle)
    (history : List Prompt.Turn) (useIntrospection : Bool) (run : Run σ)
    (hcache : HoldsOnly oracle.snapshot run.cache) :
    ∃ run', exec (p.buildPrompt history useIntrospection) run =
        (.ok (p.promptOn (p.grounding oracle useIntrospection) run.record.escapedQuestion history), run') ∧
      Explored oracle.snapshot run run' := by
  obtain ⟨run', hexec, hrun'⟩ := exists_liveSchema h useIntrospection hcache
  refine ⟨run', ?_, hrun'⟩
  unfold buildPrompt
  rw [exec_bind_of_ok hexec, exec_bind, exec_get]
  dsimp only
  rw [hrun'.record]
  unfold promptOn
  cases p.grounding oracle useIntrospection <;> rfl

/-! ## What is seen of a request -/

/-- An audit entry without the times and the identifier of the request. -/
def unstamped (entry : Json) : Json := ((entry.erase "timestamp").erase "request_id").erase "execution_time_ms"

/-- What a request comes to, what it asks the model, what it sends to the database, and what it hands to the audit
log but for times and identifiers. -/
structure Seen where
  result : Except Fault Reply
  prompts : List Model.Request
  statements : List String
  entries : List Json

def seen (answer : Answer σ) : Seen where
  result := answer.result
  prompts := prompts answer.events
  statements := statements answer.events
  entries := (entries answer.events).map unstamped

theorem unstamped_timed (p : Pipeline σ) (started : Number) (world : σ) {past : Past} (h : past.notes = [])
    (r : Record) : unstamped (p.timed started world (past.onto r)).toEntry = unstamped (Past.onto {} r).toEntry := by
  obtain ⟨timestamp, requestId, notes, events, cache⟩ := past
  subst h
  rfl

/-- A past without notes in which only the introspector was called is not seen. -/
theorem seen_conclude (p : Pipeline σ) (started : Number) (result : Except Fault Reply) {past : Past} {n : Nat}
    (hnotes : past.notes = []) (hpast : past.events = List.replicate n .introspected) {left : Run σ}
    (hentries : entries (left.following past).events = []) :
    seen (p.conclude started result (left.following past)) =
      ⟨outcome result (Past.onto {} left.record), prompts left.events, statements left.events,
        (closing result (Past.onto {} left.record)).toList.map fun r => unstamped r.toEntry⟩ := by
  obtain ⟨hcomes, hends, -⟩ := concludes p started result (left.following past)
  have hrecord : (left.following past).record = past.onto left.record := rfl
  have hevents : (left.following past).events = List.replicate n .introspected ++ left.events := by
    unfold Run.following
    rw [hpast]
  unfold seen
  rw [hcomes, hends, entries_append, hentries, prompts_append, statements_append, prompts_audited,
    statements_audited, entries_audited, hevents, hrecord, outcome_onto, outcome_onto, closing_onto, closing_onto]
  simp only [prompts_append, prompts_introspected, statements_append, statements_introspected, List.nil_append,
    List.append_nil, Option.toList_map, List.map_map]
  congr 1
  refine List.map_congr_left fun r _ => ?_
  exact p.unstamped_timed started left.world hnotes r

/-! ## One request -/

/-- The prompt that a question leads to. -/
def promptFor (p : Pipeline σ) (oracle : Oracle) (question : Question) : String :=
  p.promptOn (p.grounding oracle question.useIntrospection)
    (Prompt.escape (Text.trimString (question.text.getD ""))) question.history

theorem promptFor_alone (p : Pipeline σ) (oracle : Oracle) (question : Question) :
    (p.alone oracle).promptFor oracle question = p.promptFor oracle question := by
  have hgrounding : (p.alone oracle).grounding oracle question.useIntrospection =
      p.grounding oracle question.useIntrospection := by
    unfold grounding alone
    cases p.collaborators.introspect <;> rfl
  unfold promptFor
  rw [hgrounding]
  rfl

/-- The past of a request up to its prompt: the introspector may have been called. -/
structure IsGrounding (oracle : Oracle) (past : Past) : Prop where
  notes : past.notes = []
  events : ∃ n, past.events = List.replicate n .introspected
  cache : HoldsOnly oracle.snapshot past.cache

theorem exists_past {p : Pipeline σ} {oracle : Oracle} (h : p.IsDetermined oracle) (timestamp generated : String)
    (question : Question) {cache : Cache Number Snapshot} (hcache : HoldsOnly oracle.snapshot cache) (world : σ) :
    ∃ (past : Past) (world' : σ), IsGrounding oracle past ∧
      exec (p.answer question) (p.begun timestamp generated question cache world) =
        exec (p.work (p.promptFor oracle question)) ((bare (question.text.getD "") world').following past) := by
  obtain ⟨run, hexec, hrecord, hholds, n, hevents⟩ := exists_buildPrompt h question.history
    question.useIntrospection (p.begun timestamp generated question cache world) hcache
  refine ⟨
    ⟨timestamp, some (identify generated question.requestId), [], List.replicate n .introspected, run.cache⟩,
    run.world, ⟨rfl, ⟨n, rfl⟩, hholds⟩, ?_⟩
  rw [answer_eq, exec_bind_of_ok hexec]
  obtain ⟨record, cache', world', events⟩ := run
  cases hrecord
  cases hevents
  unfold Run.following bare
  rw [List.append_nil]
  rfl

/-- Whatever state a request finds, it is seen to be what it is alone, and it leaves no other snapshot in the
cache. -/
theorem seen_ask {p : Pipeline σ} {oracle : Oracle} (h : p.IsDetermined oracle) (timestamp generated : String)
    (question : Question) {cache : Cache Number Snapshot} (hcache : HoldsOnly oracle.snapshot cache) (world : σ) :
    seen (p.ask timestamp generated question cache world) = seen ((p.alone oracle).ask "" "" question {} ()) ∧
      HoldsOnly oracle.snapshot (p.ask timestamp generated question cache world).cache := by
  cases hblank : Text.isEmptyOrBlank (question.text.getD "").toList with
  | true =>
    rw [ask_of_blank hblank, ask_of_blank hblank]
    exact ⟨rfl, hcache⟩
  | false =>
    rw [ask_of_not_blank hblank, ask_of_not_blank hblank]
    obtain ⟨past, world₁, hpast, hexec⟩ := exists_past h timestamp generated question hcache world
    obtain ⟨past', world₂, hpast', hexec'⟩ :=
      exists_past (p.isDetermined_alone oracle) "" "" question (holdsOnly_empty _) ()
    have hcourse := entries_course (course_answer p question (p.begun timestamp generated question cache world))
    have hcourse' :=
      entries_course (course_answer (p.alone oracle) question ((p.alone oracle).begun "" "" question {} ()))
    have hbare : (sameBond fun _ _ => True).Related none (bare (question.text.getD "") world₁)
        (bare (question.text.getD "") world₂) := ⟨trivial, rfl, rfl, .nil, rfl⟩
    obtain ⟨result, left, left', hleft, hleft', hrelated⟩ :=
      same_work h.worksAlike hbare (p.promptFor oracle question) past past'
    rw [hexec, hleft] at hcourse ⊢
    rw [hexec', promptFor_alone, hleft'] at hcourse' ⊢
    obtain ⟨n, hn⟩ := hpast.events
    obtain ⟨n', hn'⟩ := hpast'.events
    refine ⟨?_, ?_⟩
    · rw [seen_conclude _ _ _ hpast.notes hn hcourse, seen_conclude _ _ _ hpast'.notes hn' hcourse',
        onto_eq_of_related hrelated, hrelated.events]
    · rw [(concludes p _ result (left.following past)).cache]
      exact hpast.cache

/-- Every entry bears the identifier that the request was given, or the one that was generated for it. -/
def BearsId (asking : Asking) (answer : Answer σ) : Prop :=
  ∀ entry ∈ entries answer.events,
    entry.getD "request_id" = .text (identify asking.generated asking.question.requestId)

theorem bearsId_ask (p : Pipeline σ) (asking : Asking) (cache : Cache Number Snapshot) (world : σ) :
    BearsId asking (p.ask asking.timestamp asking.generated asking.question cache world) := by
  intro entry hentry
  obtain ⟨record, hheading, rfl⟩ :=
    (p.closed_ask asking.timestamp asking.generated asking.question cache world).exists_record hentry
  exact congrArg (fun heading : Heading => Json.optionalText heading.requestId) hheading

/-! ## Requests one after another -/

theorem seen_askAll {p : Pipeline σ} {oracle : Oracle} (h : p.IsDetermined oracle) (askings : List Asking)
    {cache : Cache Number Snapshot} (hcache : HoldsOnly oracle.snapshot cache) (world : σ) :
    (p.askAll askings cache world).map seen =
        askings.map (fun asking => seen ((p.alone oracle).ask "" "" asking.question {} ())) ∧
      List.Forall₂ BearsId askings (p.askAll askings cache world) := by
  induction askings generalizing cache world with
  | nil => exact ⟨rfl, .nil⟩
  | cons asking askings ih =>
    obtain ⟨hseen, hleft⟩ := seen_ask h asking.timestamp asking.generated asking.question hcache world
    obtain ⟨hrest, hids⟩ := ih hleft (p.ask asking.timestamp asking.generated asking.question cache world).world
    rw [askAll, List.map_cons, List.map_cons, hseen, hrest]
    exact ⟨rfl, .cons (p.bearsId_ask asking cache world) hids⟩

/-- Every request is seen to be what it is alone, whichever requests were made before it, whatever the world and the
clocks are, and at whatever time it is made; so requests in another order are seen to be the same in that order. -/
theorem requests_independent {p : Pipeline σ} {oracle : Oracle} (h : p.IsDetermined oracle) (askings : List Asking)
    {cache : Cache Number Snapshot} (hcache : HoldsOnly oracle.snapshot cache) (world : σ) :
    (p.askAll askings cache world).map seen =
        askings.map (fun asking => seen ((p.alone oracle).ask "" "" asking.question {} ())) ∧
      List.Forall₂ BearsId askings (p.askAll askings cache world) ∧
      ∀ (askings' : List Asking) (cache' : Cache Number Snapshot) (world' : σ), HoldsOnly oracle.snapshot cache' →
        (askings'.map (·.question)).Perm (askings.map (·.question)) →
        ((p.askAll askings' cache' world').map seen).Perm ((p.askAll askings cache world).map seen) := by
  obtain ⟨hseen, hids⟩ := seen_askAll h askings hcache world
  refine ⟨hseen, hids, fun askings' cache' world' hcache' hperm => ?_⟩
  have hquestions : ∀ l : List Asking,
      l.map (fun asking => seen ((p.alone oracle).ask "" "" asking.question {} ())) =
        (l.map (·.question)).map fun question => seen ((p.alone oracle).ask "" "" question {} ()) :=
    fun l => by rw [List.map_map]; rfl
  rw [hseen, (seen_askAll h askings' hcache' world').1, hquestions, hquestions]
  exact hperm.map _

/-- A pipeline in a world that changes with every call. -/
def restless : Pipeline Nat where
  config := { cacheTtl := some (.whole 5) }
  collaborators :=
    { complete := fun _ world => (.error ⟨.modelUnavailable, "busy"⟩, world + 1)
      fetchAll := fun _ world => (.ok [[("Name", .text "Acme")]], world + 2)
      introspect := some fun world => (.ok ⟨[]⟩, world + 3)
      now := fun world => (.whole world, world)
      cacheNow := fun world => (.whole world, world + 4) }

/-- Two questions change places, with one behind them and other times and identifiers. -/
theorem requests_independent_restless :
    restless.IsDetermined
      ⟨fun _ => .error ⟨.modelUnavailable, "busy"⟩, fun _ => .ok [[("Name", .text "Acme")]], ⟨[]⟩⟩ ∧
    HoldsOnly ⟨[]⟩ {} ∧
    ((restless.askAll [⟨"t", "three", { text := some " " }⟩, ⟨"u", "four", { text := some "Which?" }⟩,
        ⟨"v", "five", { text := some "How many?" }⟩] {} 9).map seen).Perm
      ((restless.askAll [⟨"r", "one", { text := some "Which?" }⟩, ⟨"s", "two", { text := some " " }⟩,
        ⟨"w", "six", { text := some "How many?" }⟩] {} 0).map seen) := by
  have hdetermined : restless.IsDetermined
      ⟨fun _ => .error ⟨.modelUnavailable, "busy"⟩, fun _ => .ok [[("Name", .text "Acme")]], ⟨[]⟩⟩ := by
    refine ⟨fun _ _ => rfl, fun _ _ => rfl, ?_⟩
    rintro introspect ⟨⟩ world
    rfl
  exact ⟨hdetermined, holdsOnly_empty _, (requests_independent hdetermined _ (holdsOnly_empty _) 0).2.2 _ _ 9
    (holdsOnly_empty _) (.swap _ _ _)⟩

end Pipeline

end TenderQuery.Query
