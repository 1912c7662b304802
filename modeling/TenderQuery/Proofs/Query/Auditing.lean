import TenderQuery.Audit.Log
import TenderQuery.Proofs.Query.Coupling
import TenderQuery.Proofs.Query.Events

/-!
# When a request is audited

Every request leaves exactly one entry in each sink, as its last act, unless the question is blank or the
request is cancelled (`audited_once`).

- `Pipeline.noting` is a pipeline whose collaborators write down in the world what they raise. It works like
  the pipeline itself (`joins_noting`), so `Pipeline.raised` is what the collaborators raise in a request.
- A cancellation that a collaborator raises is the last thing that it raises, and it is the result of the
  request (`result_of_cancelled`). Without one the request ends in one of the ways of `Ends`.
-/
set_option autoImplicit false
namespace TenderQuery.Query

/-! ## Collaborators that write down what they raise -/

section
variable {σ α : Type}

def noted (f : σ → Except Fault α × σ) (world : σ × List Fault) : Except Fault α × (σ × List Fault) :=
  ((f world.1).1, ((f world.1).2, world.2 ++ (fault? (f world.1).1).toList))

def unnoted (f : σ → α × σ) (world : σ × List Fault) : α × (σ × List Fault) :=
  ((f world.1).1, ((f world.1).2, world.2))

def Collaborators.noting (c : Collaborators σ) : Collaborators (σ × List Fault) where
  complete request := noted (c.complete request)
  fetchAll sql := noted (c.fetchAll sql)
  introspect := c.introspect.map noted
  now := unnoted c.now
  cacheNow := unnoted c.cacheNow

end

namespace Pipeline
variable {σ : Type}

def noting (p : Pipeline σ) : Pipeline (σ × List Fault) := ⟨p.config, p.collaborators.noting⟩

/-- What the collaborators raise in a request, in order. -/
def raised (p : Pipeline σ) (timestamp generated : String) (question : Question)
    (cache : Schema.Cache Number Schema.Snapshot) (world : σ) : List Fault :=
  (p.noting.ask timestamp generated question cache (world, [])).world.2

/-- The worlds differ in what was written down, where a cancellation is found only if it has ended the work.
A cancellation that was not written down comes from a rule. -/
def noteBond (p : Pipeline σ) : Bond (σ × List Fault) σ where
  World ended world world' :=
    world' = world.1 ∧ (∀ fault ∈ world.2, fault.kind = .cancelled → ended = some fault) ∧
      ∀ fault, ended = some fault →
        fault ∈ world.2 ∨ ∃ question, Fallback.statement p.config.rules question = .error fault
  Alike := Eq
  Note := Eq

theorem cancellation_eq_some {fault found : Fault} (h : cancellation? fault = some found) :
    fault = found ∧ fault.kind = .cancelled := by
  unfold cancellation? at h
  split at h
  · rename_i hkind
    exact ⟨Option.some.inj h, hkind⟩
  · cases h

theorem answers_noted {α : Type} (p : Pipeline σ) (f : σ → Except Fault α × σ) :
    p.noteBond.Answers (noted f) f := by
  rintro ⟨_, log⟩ world ⟨rfl, hlog, -⟩
  unfold noted
  cases hanswer : f world with
  | mk answer left =>
    cases answer with
    | ok a =>
      refine Agree.ok ⟨rfl, ?_, nofun⟩
      simpa [fault?] using hlog
    | error fault =>
      refine Agree.error rfl ⟨rfl, ?_, ?_⟩
      · intro found hfound hkind
        simp only [fault?, Option.toList_some, List.mem_append, List.mem_singleton] at hfound
        obtain hfound | rfl := hfound
        · exact absurd (hlog found hfound hkind) nofun
        · exact if_pos hkind
      · intro found hfound
        obtain ⟨rfl, -⟩ := cancellation_eq_some hfound
        simp [fault?]

theorem reads_unnoted {α : Type} (p : Pipeline σ) (f : σ → α × σ) : p.noteBond.Reads (unnoted f) f := by
  rintro ⟨world, log⟩ _ ⟨rfl, hlog, hended⟩
  exact ⟨rfl, rfl, hlog, hended⟩

/-- Writing down what is raised changes nothing else. -/
theorem joins_noting (p : Pipeline σ) : p.noteBond.Joins p.noting p where
  config := rfl
  kind fault fault' h := congrArg Fault.kind h.symm
  alike _ := rfl
  exhausted fault fault' h := congrArg (fun fault : Fault => (⟨.fallbackExhausted, fault.message⟩ : Fault)) h
  note fault fault' h label := congrArg (fun fault : Fault => label ++ fault.message) h
  rules question fault hstatement world world' hworld := by
    refine ⟨hworld.1, fun found hfound hkind => absurd (hworld.2.1 found hfound hkind) nofun, ?_⟩
    intro found hfound
    obtain ⟨rfl, -⟩ := cancellation_eq_some hfound
    exact .inr ⟨question, hstatement⟩
  complete request := answers_noted _ _
  fetchAll sql := answers_noted _ _
  introspect := by
    have h : Option.Rel p.noteBond.Answers (p.collaborators.introspect.map noted)
        p.collaborators.introspect := by
      cases p.collaborators.introspect with
      | none => exact .none
      | some introspect => exact .some (answers_noted _ _)
    exact h
  now := reads_unnoted _ _
  cacheNow := reads_unnoted _ _

/-! ## The end of a request -/

theorem conclude_of_cancelled {p : Pipeline σ} {fault : Fault} (h : fault.kind = .cancelled) (started : Number)
    (run : Run σ) :
    p.conclude started (.error fault) run = ⟨.error fault, some run.record, run.events, run.cache, run.world⟩ := by
  unfold conclude
  exact if_pos h

/-- The ways in which a request that was not cancelled ends: it is answered, it fails and the caller gets a
generic text, or it fails in an unforeseen way that is passed on. -/
inductive Ends : Except Fault Reply → Record → Prop where
  | answered {reply : Reply} {record : Record} (reply_success : reply.success = true)
      (success : record.success = true) : Ends (.ok reply) record
  | failed {reply : Reply} {record : Record} (generic : reply.error = some failureMessage)
      (success : record.success = false) (noted : record.error.isSome = true) : Ends (.ok reply) record
  | crashed {fault : Fault} {record : Record} (unforeseen : fault.kind.isOwn = false)
      (success : record.success = false) (noted : record.error = some fault.summary) : Ends (.error fault) record

theorem reply_settled {outcome : Except Fault (List ResultRow) × Run σ} {reply : Reply}
    (h : (settled outcome).1 = .ok reply) :
    reply.success = true ∧ (settled outcome).2.record.success = true := by
  obtain ⟨fault | rows, left⟩ := outcome
  · cases h
  · cases h
    exact ⟨rfl, rfl⟩

theorem reply_course {p : Pipeline σ} {question : Question} {run : Run σ}
    {outcome : Except Fault Reply × Run σ} (h : Course p question run outcome) {reply : Reply}
    (hreply : outcome.1 = .ok reply) : reply.success = true ∧ outcome.2.record.success = true := by
  cases h with
  | ungrounded prompt => cases hreply
  | crashed prompt attempt => cases hreply
  | fellBack prompt attempt fallback => exact reply_settled hreply
  | executed prompt attempt execution => exact reply_settled hreply

theorem conclude_of_not_cancelled {p : Pipeline σ} {started : Number} {result : Except Fault Reply} {run : Run σ}
    (hok : ∀ reply, result = .ok reply → reply.success = true ∧ run.record.success = true)
    (hfault : ∀ fault, result = .error fault → fault.kind ≠ .cancelled) :
    ∃ record, (p.conclude started result run).record = some record ∧
      (p.conclude started result run).events = run.events ++ [.audited record.toEntry] ∧
      Ends (p.conclude started result run).result record := by
  unfold conclude
  cases result with
  | ok reply =>
    obtain ⟨hreply, hrecord⟩ := hok reply rfl
    exact ⟨_, rfl, rfl, .answered hreply hrecord⟩
  | error fault =>
    simp only
    rw [if_neg (hfault fault rfl)]
    split
    · exact ⟨_, rfl, rfl, .failed rfl rfl rfl⟩
    · rename_i hown
      exact ⟨_, rfl, rfl, .crashed (Bool.eq_false_iff.mpr hown) rfl rfl⟩

theorem world_conclude_noting (p : Pipeline σ) (started : Number) (result : Except Fault Reply)
    (run : Run (σ × List Fault)) : (p.noting.conclude started result run).world.2 = run.world.2 := by
  unfold conclude
  cases result with
  | ok reply => rfl
  | error fault =>
    simp only
    split
    · rfl
    · split
      · rfl
      · rfl

/-! ## Whole requests -/

section
variable {p : Pipeline σ} {timestamp generated : String} {question : Question}
  {cache : Schema.Cache Number Schema.Snapshot} {world : σ}

theorem related_begun (p : Pipeline σ) (timestamp generated : String) (question : Question)
    (cache : Schema.Cache Number Schema.Snapshot) (world : σ) :
    p.noteBond.Related none (p.noting.begun timestamp generated question cache (world, []))
      (p.begun timestamp generated question cache world) :=
  ⟨⟨rfl, nofun, nofun⟩, rfl, rfl, .nil, rfl⟩

theorem agree_answer (p : Pipeline σ) (timestamp generated : String) (question : Question)
    (cache : Schema.Cache Number Schema.Snapshot) (world : σ) :
    Agree p.noteBond p.noteBond.Related
      (Step.exec (p.noting.answer question) (p.noting.begun timestamp generated question cache (world, [])))
      (Step.exec (p.answer question) (p.begun timestamp generated question cache world)) :=
  p.joins_noting.couples_answer question _ _ (related_begun p timestamp generated question cache world)

theorem raised_of_blank (h : Text.isEmptyOrBlank (question.text.getD "").toList = true) :
    p.raised timestamp generated question cache world = [] := by
  unfold raised
  rw [ask_of_blank h]

theorem raised_of_not_blank (h : Text.isEmptyOrBlank (question.text.getD "").toList = false) :
    p.raised timestamp generated question cache world =
      (Step.exec (p.noting.answer question)
        (p.noting.begun timestamp generated question cache (world, []))).2.world.2 := by
  unfold raised
  rw [ask_of_not_blank h, world_conclude_noting]

/-- A cancellation that a collaborator raised is what the work comes to. -/
theorem answer_of_cancelled {fault : Fault}
    (hblank : Text.isEmptyOrBlank (question.text.getD "").toList = false)
    (hraised : fault ∈ p.raised timestamp generated question cache world) (hkind : fault.kind = .cancelled) :
    (Step.exec (p.answer question) (p.begun timestamp generated question cache world)).1 = .error fault := by
  rw [raised_of_not_blank hblank] at hraised
  have hagree := agree_answer p timestamp generated question cache world
  generalize Step.exec (p.noting.answer question) _ = outcome at hagree hraised
  generalize Step.exec (p.answer question) _ = outcome' at hagree ⊢
  cases hagree with
  | ok related => exact absurd (related.world.2.1 fault hraised hkind) nofun
  | error alike related =>
    obtain ⟨rfl, -⟩ := cancellation_eq_some (related.world.2.1 fault hraised hkind)
    rw [← alike]

/-- The work comes to a cancellation only if a collaborator or a rule raised it. -/
theorem raised_of_answer {fault : Fault}
    (hblank : Text.isEmptyOrBlank (question.text.getD "").toList = false)
    (hanswer : (Step.exec (p.answer question) (p.begun timestamp generated question cache world)).1 = .error fault)
    (hkind : fault.kind = .cancelled) :
    fault ∈ p.raised timestamp generated question cache world ∨
      ∃ text, Fallback.statement p.config.rules text = .error fault := by
  rw [raised_of_not_blank hblank]
  have hagree := agree_answer p timestamp generated question cache world
  generalize Step.exec (p.noting.answer question) _ = outcome at hagree ⊢
  generalize Step.exec (p.answer question) _ = outcome' at hagree hanswer
  cases hagree with
  | ok related => cases hanswer
  | error alike related =>
    cases hanswer
    cases alike
    exact related.world.2.2 fault (if_pos hkind)

/-- What the sinks hold after the entries among the events were handed to them. -/
def received (sinks : List (List Json)) (events : List Event) : List (List Json) :=
  (entries events).foldl Audit.deliver sinks

/-- A blank question does nothing. A cancellation that a collaborator raises is passed on, and the sinks stay
as they are. In every other case, unless a rule of the configuration is itself cancelled, the last act of a
request is to hand one entry to each sink, made from the record as the request leaves it. -/
theorem audited_once (p : Pipeline σ) (timestamp generated : String) (question : Question)
    (cache : Schema.Cache Number Schema.Snapshot) (world : σ) (sinks : List (List Json)) :
    (Text.isEmptyOrBlank (question.text.getD "").toList = true →
      (p.ask timestamp generated question cache world).result = .error blankQuestion ∧
      (p.ask timestamp generated question cache world).events = []) ∧
    (∀ fault ∈ p.raised timestamp generated question cache world, fault.kind = .cancelled →
      (p.ask timestamp generated question cache world).result = .error fault ∧
      received sinks (p.ask timestamp generated question cache world).events = sinks) ∧
    (Text.isEmptyOrBlank (question.text.getD "").toList = false →
      (∀ fault ∈ p.raised timestamp generated question cache world, fault.kind ≠ .cancelled) →
      (∀ text fault, Fallback.statement p.config.rules text = .error fault → fault.kind ≠ .cancelled) →
      ∃ record work, (p.ask timestamp generated question cache world).record = some record ∧
        (p.ask timestamp generated question cache world).events = work ++ [.audited record.toEntry] ∧
        entries work = [] ∧
        received sinks (p.ask timestamp generated question cache world).events =
          sinks.map (· ++ [record.toEntry]) ∧
        Ends (p.ask timestamp generated question cache world).result record) := by
  have hcourse := course_answer p question (p.begun timestamp generated question cache world)
  have hwork := entries_course hcourse
  refine ⟨fun hblank => ?_, fun fault hraised hkind => ?_, fun hblank hraised hrules => ?_⟩
  · rw [ask_of_blank hblank]
    exact ⟨rfl, rfl⟩
  · have hblank : Text.isEmptyOrBlank (question.text.getD "").toList = false := by
      rw [Bool.eq_false_iff]
      intro hblank
      rw [raised_of_blank hblank] at hraised
      cases hraised
    have hanswer := answer_of_cancelled hblank hraised hkind
    rw [ask_of_not_blank hblank, hanswer, conclude_of_cancelled hkind]
    refine ⟨rfl, ?_⟩
    unfold received
    rw [hwork]
    rfl
  · have hfault : ∀ fault,
        (Step.exec (p.answer question) (p.begun timestamp generated question cache world)).1 = .error fault →
          fault.kind ≠ .cancelled := by
      intro fault hanswer hkind
      obtain hfound | ⟨text, hstatement⟩ := raised_of_answer hblank hanswer hkind
      · exact hraised fault hfound hkind
      · exact hrules text fault hstatement hkind
    obtain ⟨record, hrecord, hevents, hends⟩ :=
      @conclude_of_not_cancelled _ p (p.collaborators.now world).1 _ _ (fun _ => reply_course hcourse) hfault
    rw [ask_of_not_blank hblank]
    refine ⟨record, _, hrecord, hevents, hwork, ?_, hends⟩
    unfold received
    rw [hevents, entries_append, hwork]
    rfl

/-- A pipeline without a model, whose database gives rows or is cancelled. -/
def stopping (rows : Except Fault (List ResultRow)) : Pipeline Unit where
  config := { rules := [⟨"any", .always, "SELECT 1"⟩] }
  collaborators :=
    { complete := fun _ world => (.error ⟨.modelUnavailable, "offline"⟩, world)
      fetchAll := fun _ world => (rows, world)
      introspect := none
      now := fun world => (.whole 0, world)
      cacheNow := fun world => (.whole 0, world) }

theorem audited_once_stopping :
    ((stopping (.error ⟨.cancelled, "gone"⟩)).ask "t" "id" { text := some "?" } ⟨none⟩ ()).result =
        .error ⟨.cancelled, "gone"⟩ ∧
      received [[]]
          ((stopping (.error ⟨.cancelled, "gone"⟩)).ask "t" "id" { text := some "?" } ⟨none⟩ ()).events =
        [[]] ∧
      ∃ record work, ((stopping (.ok [])).ask "t" "id" { text := some "?" } ⟨none⟩ ()).record = some record ∧
        ((stopping (.ok [])).ask "t" "id" { text := some "?" } ⟨none⟩ ()).events =
          work ++ [.audited record.toEntry] ∧
        entries work = [] ∧
        received [[]] ((stopping (.ok [])).ask "t" "id" { text := some "?" } ⟨none⟩ ()).events =
          [[record.toEntry]] ∧
        Ends ((stopping (.ok [])).ask "t" "id" { text := some "?" } ⟨none⟩ ()).result record := by
  have hcancelled : (⟨.cancelled, "gone"⟩ : Fault) ∈
      (stopping (.error ⟨.cancelled, "gone"⟩)).raised "t" "id" { text := some "?" } ⟨none⟩ () := by
    decide +kernel
  have hraised : ∀ fault ∈ (stopping (.ok [])).raised "t" "id" { text := some "?" } ⟨none⟩ (),
      fault.kind ≠ .cancelled := by decide +kernel
  have hrules : ∀ text fault, Fallback.statement (stopping (.ok [])).config.rules text = .error fault →
      fault.kind ≠ .cancelled := by
    intro text fault hstatement
    have hok : Fallback.statement (stopping (.ok [])).config.rules text = .ok "SELECT 1" := rfl
    rw [hok] at hstatement
    cases hstatement
  obtain ⟨hresult, hsinks⟩ := (audited_once (stopping (.error ⟨.cancelled, "gone"⟩)) "t" "id"
    { text := some "?" } ⟨none⟩ () [[]]).2.1 _ hcancelled rfl
  exact ⟨hresult, hsinks, (audited_once (stopping (.ok [])) "t" "id" { text := some "?" } ⟨none⟩ () [[]]).2.2
    (by decide) hraised hrules⟩

end

end Pipeline

end TenderQuery.Query
