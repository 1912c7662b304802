import TenderQuery.Proofs.Query.Past

/-!
# Requests without a live schema

A request whose introspection fails in the foreseen way goes on as if no live schema had been wanted (`goesLike_ask`):
the two runs come together again at the prompt, behind pasts that differ in the call of the introspector and the note
on its fault, and the work behind the prompt forgets the past.

- `Pipeline.FindsNothing` says that the cache holds no snapshot that is fresh when it is looked into, and
  `Pipeline.loadingWorld` is the world in which the introspector is called then.
- `GoesLike` compares the two requests as a whole.
-/
set_option autoImplicit false
namespace TenderQuery.Query
open Schema (Cache Snapshot)

namespace Pipeline
open Step
variable {σ : Type}

/-! ## Looking for a snapshot -/

/-- The world after a look into the cache, which reads the clock if there is something in it. -/
def afterLook (p : Pipeline σ) (cache : Cache Number Snapshot) (world : σ) : σ :=
  if cache.stored.isNone then world else (p.collaborators.cacheNow world).2

theorem exec_cached (p : Pipeline σ) (ttl : Number) (run : Run σ) :
    exec (p.cached? ttl) run =
      (.ok (run.cache.fresh? ttl (p.collaborators.cacheNow run.world).1),
        run.within (p.afterLook run.cache run.world)) := by
  unfold cached? afterLook
  rw [exec_bind, exec_get]
  dsimp only
  cases hstored : run.cache.stored with
  | none =>
    have hfresh : ∀ now, run.cache.fresh? ttl now = none := fun now => by
      unfold Cache.fresh?
      rw [hstored]
    rw [hfresh]
    rfl
  | some stored => rfl

/-- The cache holds no snapshot that is fresh at the first look or at the second. -/
def FindsNothing (p : Pipeline σ) (cache : Cache Number Snapshot) (world : σ) : Prop :=
  ∀ ttl ∈ p.config.cacheTtl,
    cache.fresh? ttl (p.collaborators.cacheNow world).1 = none ∧
      cache.fresh? ttl (p.collaborators.cacheNow (p.afterLook cache world)).1 = none

/-- The world in which the introspector is called when nothing was found. -/
def loadingWorld (p : Pipeline σ) (cache : Cache Number Snapshot) (world : σ) : σ :=
  if p.config.cacheTtl.isSome then p.afterLook cache (p.afterLook cache world) else world

theorem exec_load (introspect : σ → Except Fault Snapshot × σ) (run : Run σ) :
    exec (load introspect) run =
      ((introspect run.world).1, (run.emit .introspected).within (introspect run.world).2) := by
  unfold load
  rw [exec_bind, exec_emit]
  exact exec_call introspect _

/-- A load that fails leaves the cache as it is. -/
theorem exec_snapshot_of_fails {p : Pipeline σ} {introspect : σ → Except Fault Snapshot × σ} {run : Run σ}
    {fault : Fault} (hnothing : p.FindsNothing run.cache run.world)
    (hfails : (introspect (p.loadingWorld run.cache run.world)).1 = .error fault) :
    exec (p.snapshot introspect) run =
      (.error fault, (run.emit .introspected).within (introspect (p.loadingWorld run.cache run.world)).2) := by
  unfold snapshot
  unfold loadingWorld at hfails ⊢
  cases httl : p.config.cacheTtl with
  | none =>
    rw [httl] at hfails
    simp only [Option.isSome_none, Bool.false_eq_true, if_false] at hfails ⊢
    rw [exec_load, hfails]
  | some ttl =>
    obtain ⟨hfirst, hsecond⟩ := hnothing ttl httl
    rw [httl] at hfails
    simp only [Option.isSome_some, if_true] at hfails ⊢
    rw [exec_bind, exec_cached, hfirst]
    simp only
    rw [exec_bind, exec_cached]
    simp only [Run.within]
    rw [hsecond]
    simp only
    rw [exec_bind, exec_load]
    simp only
    rw [hfails]
    rfl

/-! ## The prompt -/

theorem exec_buildPrompt_plain (p : Pipeline σ) (history : List Prompt.Turn) (run : Run σ) :
    exec (p.buildPrompt history false) run =
      (.ok (p.config.composer.composeStatic run.record.escapedQuestion history), run) := by
  have hschema : exec (p.liveSchema? false) run = (.ok none, run) := by
    unfold liveSchema?
    split
    · rfl
    · rfl
  unfold buildPrompt
  rw [exec_bind_of_ok hschema]
  rfl

/-- The note on an introspection that failed. -/
def introspectionNote (message : String) : String := "introspection: " ++ message

/-- The run after an introspection that failed and that the static schema makes up for. -/
def degraded (message : String) (world : σ) (run : Run σ) : Run σ :=
  ((run.emit .introspected).within world).update fun r =>
    { r with recoveredErrors := r.recoveredErrors ++ [introspectionNote message] }

theorem exec_buildPrompt_degraded {p : Pipeline σ} {introspect : σ → Except Fault Snapshot × σ}
    (hintrospect : p.collaborators.introspect = some introspect)
    (hdegrades : p.config.degradeOnIntrospectionError = true) (run : Run σ) {message : String}
    (hnothing : p.FindsNothing run.cache run.world)
    (hfails : (introspect (p.loadingWorld run.cache run.world)).1 = .error ⟨.introspection, message⟩)
    (history : List Prompt.Turn) :
    exec (p.buildPrompt history true) run =
      (.ok (p.config.composer.composeStatic run.record.escapedQuestion history),
        degraded message (introspect (p.loadingWorld run.cache run.world)).2 run) := by
  have hschema : exec (p.liveSchema? true) run =
      (.ok none, degraded message (introspect (p.loadingWorld run.cache run.world)).2 run) := by
    unfold liveSchema?
    simp only [hintrospect, if_true]
    rw [exec_tryCatch, exec_bind_of_error (exec_snapshot_of_fails hnothing hfails)]
    unfold degrade
    simp only [hdegrades, decide_true, Bool.and_self, if_true]
    rfl
  unfold buildPrompt
  rw [exec_bind_of_ok hschema]
  rfl

/-! ## Whole requests -/

/-- The run of a request in some world, with nothing in its past. -/
def bare (text : String) (world : σ) : Run σ :=
  ⟨{ newRecord "" "" text with requestId := none }, {}, world, []⟩

/-- The first request goes like the second: it comes to the same, asks the model the same and sends the same
statements, the cache stays as it is, and the records that are handed to the audit log differ in their stamps and in a
note that the first one begins with. Requests that take their times from clocks that agree take the same time. -/
structure GoesLike (p : Pipeline σ) (World : σ → σ → Prop) (cache : Cache Number Snapshot)
    (timestamp id note : String) (a b : Answer σ) : Prop where
  result : a.result = b.result
  prompts : prompts a.events = prompts b.events
  statements : statements a.events = statements b.events
  cache : a.cache = cache ∧ b.cache = cache
  entries : ∃ (kept : Option Record) (time : Number),
    entries b.events = kept.toList.map Record.toEntry ∧
    entries a.events = kept.toList.map (fun r => Record.toEntry
      { r with
        timestamp := timestamp
        requestId := some id
        recoveredErrors := note :: r.recoveredErrors
        executionTime := time }) ∧
    ((sameBond World).Reads p.collaborators.now p.collaborators.now → ∀ r ∈ kept, r.executionTime = time)

/-- The past with other stamps, in which the introspector was called first and its fault was noted. -/
def pastFailure (timestamp id note : String) (past : Past) : Past where
  timestamp := timestamp
  requestId := some id
  notes := note :: past.notes
  events := .introspected :: past.events
  cache := past.cache

theorem goesLike_conclude {p : Pipeline σ} {World : σ → σ → Prop} {left left' : Run σ}
    (hleft : (sameBond World).Related none left left') {past : Past}
    (hentries : entries (left.following past).events = []) (timestamp id note : String) (started : Number)
    (result : Except Fault Reply) :
    GoesLike p World past.cache timestamp id note
      (p.conclude started result (left'.following (pastFailure timestamp id note past)))
      (p.conclude started result (left.following past)) := by
  obtain ⟨hcomes, hends, hcache⟩ := concludes p started result (left.following past)
  obtain ⟨hcomes', hends', hcache'⟩ :=
    concludes p started result (left'.following (pastFailure timestamp id note past))
  have hfollowing : (left'.following (pastFailure timestamp id note past)).events =
      .introspected :: (left.following past).events := by
    unfold Run.following pastFailure
    rw [hleft.events]
    rfl
  have hrecord' : (left'.following (pastFailure timestamp id note past)).record =
      (pastFailure timestamp id note past).onto left.record :=
    onto_eq_of_related hleft _
  have hrecord₀ : (left.following past).record = past.onto left.record := rfl
  rw [hrecord', closing_onto, hfollowing] at hends'
  rw [hrecord₀, closing_onto] at hends
  rw [hrecord', outcome_onto] at hcomes'
  rw [hrecord₀, outcome_onto] at hcomes
  refine ⟨hcomes'.trans hcomes.symm, ?_, ?_, ⟨hcache', hcache⟩,
    (closing result left.record).map fun r => p.timed started left.world (past.onto r),
    ((p.collaborators.now left'.world).1 - started).mul (.whole 1000), ?_, ?_, ?_⟩
  · rw [hends, hends', prompts_append, prompts_append, prompts_audited, prompts_audited]
    rfl
  · rw [hends, hends', statements_append, statements_append, statements_audited, statements_audited]
    rfl
  · rw [hends, entries_append, hentries, entries_audited, List.nil_append]
    cases closing result left.record <;> rfl
  · rw [hends', entries_append, entries_audited]
    change entries (left.following past).events ++ _ = _
    rw [hentries, List.nil_append]
    cases closing result left.record <;> rfl
  · intro hreads r hr
    obtain ⟨r', -, rfl⟩ := Option.map_eq_some_iff.mp hr
    change ((p.collaborators.now left.world).1 - started).mul _ = _
    rw [(hreads left.world left'.world hleft.world).1]

/-- A request whose introspection fails in the foreseen way goes like one that wants no live schema, if the model and
the database cannot tell from the world that the introspector was called. -/
theorem goesLike_ask {p : Pipeline σ} {World : σ → σ → Prop} (h : WorksAlike World p p)
    {introspect : σ → Except Fault Snapshot × σ} (hintrospect : p.collaborators.introspect = some introspect)
    (hdegrades : p.config.degradeOnIntrospectionError = true) (timestamp timestamp' generated generated' : String)
    (question : Question) {cache : Cache Number Snapshot} {world loading loaded : σ} {message : String}
    (hnothing : p.FindsNothing cache (p.collaborators.now world).2)
    (hloading : p.loadingWorld cache (p.collaborators.now world).2 = loading)
    (hfails : introspect loading = (.error ⟨.introspection, message⟩, loaded))
    (hworld : World (p.collaborators.now world).2 loaded) :
    GoesLike p World cache timestamp (identify generated question.requestId) (introspectionNote message)
      (p.ask timestamp generated { question with useIntrospection := true } cache world)
      (p.ask timestamp' generated' { question with useIntrospection := false } cache world) := by
  cases hblank : Text.isEmptyOrBlank (question.text.getD "").toList with
  | true =>
    rw [@ask_of_blank σ p { question with useIntrospection := true } hblank,
      @ask_of_blank σ p { question with useIntrospection := false } hblank]
    exact ⟨rfl, rfl, rfl, ⟨rfl, rfl⟩, none, .whole 0, rfl, rfl, fun _ _ hr => by cases hr⟩
  | false =>
    rw [@ask_of_not_blank σ p { question with useIntrospection := true } hblank,
      @ask_of_not_blank σ p { question with useIntrospection := false } hblank]
    let text := question.text.getD ""
    let prompt := p.config.composer.composeStatic (Prompt.escape (Text.trimString text)) question.history
    let past : Past := ⟨timestamp', some (identify generated' question.requestId), [], [], cache⟩
    let past' := pastFailure timestamp (identify generated question.requestId) (introspectionNote message) past
    have hplain : exec (p.answer { question with useIntrospection := false })
        (p.begun timestamp' generated' { question with useIntrospection := false } cache world) =
        exec (p.work prompt) ((bare text (p.collaborators.now world).2).following past) := by
      rw [answer_eq, exec_bind_of_ok (p.exec_buildPrompt_plain _ _)]
      rfl
    have hdegraded : exec (p.answer { question with useIntrospection := true })
        (p.begun timestamp generated { question with useIntrospection := true } cache world) =
        exec (p.work prompt) ((bare text loaded).following past') := by
      subst hloading
      have hprompt := exec_buildPrompt_degraded hintrospect hdegrades
        (p.begun timestamp generated { question with useIntrospection := true } cache world)
        hnothing (congrArg Prod.fst hfails) question.history
      rw [answer_eq, exec_bind_of_ok hprompt]
      unfold begun degraded
      simp only
      rw [hfails]
      rfl
    have hbare : (sameBond World).Related none (bare text (p.collaborators.now world).2) (bare text loaded) :=
      ⟨hworld, rfl, rfl, .nil, rfl⟩
    obtain ⟨result, left, left', hleft, hleft', hrelated⟩ := same_work h hbare prompt past past'
    have hcourse := entries_course (course_answer p { question with useIntrospection := false }
      (p.begun timestamp' generated' { question with useIntrospection := false } cache world))
    rw [hplain, hleft] at hcourse
    rw [hplain, hdegraded, hleft, hleft']
    exact goesLike_conclude hrelated hcourse _ _ _ _ result

/-- A pipeline without a catalog, whose clock goes on with every call of the introspector. -/
def unlit : Pipeline Nat where
  config := { cacheTtl := some (.whole 5) }
  collaborators :=
    { complete := fun _ world => (.ok (.text "SELECT Name FROM tenderCompany"), world)
      fetchAll := fun _ world => (.ok [[("Name", .text "Acme")]], world)
      introspect := some fun world => (.error ⟨.introspection, "no catalog"⟩, world + 1)
      now := fun world => (.whole world, world)
      cacheNow := fun world => (.whole 10, world) }

/-- A snapshot that is older than it may be does not help. -/
theorem goesLike_ask_unlit :
    unlit.FindsNothing ⟨some (⟨[]⟩, .whole 0)⟩ 0 ∧
    GoesLike unlit (fun _ _ => True) ⟨some (⟨[]⟩, .whole 0)⟩ "today" "one" "introspection: no catalog"
      (unlit.ask "today" "one" { text := some "Which?", useIntrospection := true } ⟨some (⟨[]⟩, .whole 0)⟩ 0)
      (unlit.ask "later" "two" { text := some "Which?", useIntrospection := false }
        ⟨some (⟨[]⟩, .whole 0)⟩ 0) := by
  have halike : WorksAlike (fun _ _ => True) unlit unlit :=
    ⟨rfl, fun _ _ _ _ => .ok trivial, fun _ _ _ _ => .ok trivial⟩
  have hnothing : unlit.FindsNothing ⟨some (⟨[]⟩, .whole 0)⟩ 0 := by
    have hold :
        (Cache.fresh? (.whole 5) (⟨some (⟨[]⟩, .whole 0)⟩ : Cache Number Snapshot) (.whole 10)).isNone := by
      decide +kernel
    rintro ttl ⟨⟩
    exact ⟨Option.isNone_iff_eq_none.mp hold, Option.isNone_iff_eq_none.mp hold⟩
  exact ⟨hnothing, goesLike_ask halike rfl rfl "today" "later" "one" "two" { text := some "Which?" } hnothing rfl rfl
    trivial⟩

end Pipeline

end TenderQuery.Query
