import TenderQuery.Proofs.Query.Auditing
import TenderQuery.Proofs.Query.Sending

/-!
# What faults say stays inside

The texts of faults are for the audit log. Two pipelines whose collaborators run into faults of the same kinds at
the same points (`DiffersInTexts`) send the same statements and give the same replies, and are left alike for the
next question (`alike_ask`), whatever the faults say and whenever the questions come.
-/
set_option autoImplicit false
namespace TenderQuery.Query

/-- The bond of two pipelines whose faults have the same kinds; what the faults say does not matter. -/
def textBond {σ τ : Type} (World : σ → τ → Prop) : Bond σ τ where
  World _ := World
  Alike fault fault' := fault'.kind = fault.kind
  Note _ _ := True

namespace Pipeline
variable {σ τ : Type} {World : σ → τ → Prop} {p : Pipeline σ} {q : Pipeline τ}

/-- Two pipelines of one configuration whose collaborators do the same in worlds that belong together, except for
the texts of the faults that they raise. -/
structure DiffersInTexts (World : σ → τ → Prop) (p : Pipeline σ) (q : Pipeline τ) : Prop where
  config : q.config = p.config
  complete : ∀ request,
    (textBond World).Answers (p.collaborators.complete request) (q.collaborators.complete request)
  fetchAll : ∀ sql, (textBond World).Answers (p.collaborators.fetchAll sql) (q.collaborators.fetchAll sql)
  introspect : Option.Rel (textBond World).Answers p.collaborators.introspect q.collaborators.introspect
  now : (textBond World).Reads p.collaborators.now q.collaborators.now
  cacheNow : (textBond World).Reads p.collaborators.cacheNow q.collaborators.cacheNow

theorem DiffersInTexts.joins (h : DiffersInTexts World p q) : (textBond World).Joins p q where
  config := h.config
  kind _ _ halike := halike
  alike _ := rfl
  exhausted _ _ _ := rfl
  note _ _ _ _ := trivial
  rules _ _ _ _ _ hworld := hworld
  complete := h.complete
  fetchAll := h.fetchAll
  introspect := h.introspect
  now := h.now
  cacheNow := h.cacheNow

/-! ### Rewording -/

/-- The collaborator, whose faults say something else. -/
def reworded {α : Type} (text : σ → Fault → String) (f : σ → Except Fault α × σ) (world : σ) :
    Except Fault α × σ :=
  ((f world).1.mapError fun fault => ⟨fault.kind, text world fault⟩, (f world).2)

/-- The pipeline, whose model, database and introspector say something else when they fail. -/
def rewording (text : σ → Fault → String) (p : Pipeline σ) : Pipeline σ where
  config := p.config
  collaborators :=
    { p.collaborators with
      complete := fun request => reworded text (p.collaborators.complete request)
      fetchAll := fun sql => reworded text (p.collaborators.fetchAll sql)
      introspect := p.collaborators.introspect.map (reworded text) }

theorem answers_reworded {α : Type} (text : σ → Fault → String) (f : σ → Except Fault α × σ) :
    (textBond Eq).Answers f (reworded text f) := by
  rintro world _ rfl
  unfold reworded
  obtain ⟨a | fault, left⟩ := f world
  · exact .error rfl rfl
  · exact .ok rfl

theorem differsInTexts_rewording (text : σ → Fault → String) (p : Pipeline σ) :
    DiffersInTexts Eq p (p.rewording text) where
  config := rfl
  complete request := answers_reworded text _
  fetchAll sql := answers_reworded text _
  introspect := by
    have h : Option.Rel (textBond Eq).Answers p.collaborators.introspect
        (p.collaborators.introspect.map (reworded text)) := by
      cases p.collaborators.introspect with
      | none => exact .none
      | some introspect => exact .some (answers_reworded text introspect)
    exact h
  now := fun world world' hworld => hworld ▸ ⟨rfl, rfl⟩
  cacheNow := fun world world' hworld => hworld ▸ ⟨rfl, rfl⟩

/-! ## One question -/

/-- Two requests that look the same from outside: the same statements are sent, and they come to the same reply or
to faults of one kind. -/
structure SeenAlike (a : Answer σ) (b : Answer τ) : Prop where
  statements : statements b.events = statements a.events
  result : b.result.mapError Fault.kind = a.result.mapError Fault.kind

/-- The responses to requests, which those have that come to a reply. -/
def responses (answers : List (Answer σ)) : List (Option Json) :=
  answers.map fun answer => answer.result.toOption.map Reply.toResponse

theorem toOption_mapError {α ε ε' : Type} (f : ε → ε') (x : Except ε α) :
    (x.mapError f).toOption = x.toOption := by
  cases x <;> rfl

theorem SeenAlike.toOption_result {a : Answer σ} {b : Answer τ} (h : SeenAlike a b) :
    b.result.toOption = a.result.toOption := by
  rw [← toOption_mapError Fault.kind b.result, h.result, toOption_mapError]

theorem responses_eq {answers : List (Answer σ)} {answers' : List (Answer τ)}
    (h : List.Forall₂ SeenAlike answers answers') : responses answers' = responses answers := by
  induction h with
  | nil => rfl
  | cons hseen _ ih =>
    exact List.cons_eq_cons.mpr ⟨congrArg (Option.map Reply.toResponse) hseen.toOption_result, ih⟩

/-- Two requests that leave the same for the next one. -/
structure LeftAlike (World : σ → τ → Prop) (a : Answer σ) (b : Answer τ) : Prop where
  cache : b.cache = a.cache
  world : World a.world b.world

theorem leftAlike_finish (h : DiffersInTexts World p q) {ended : Option Fault} {run : Run σ} {run' : Run τ}
    (hrun : (textBond World).Related ended run run') (started started' : Number) (record record' : Record)
    (result result' : Except Fault Reply) :
    LeftAlike World (p.finish started run record result) (q.finish started' run' record' result') :=
  ⟨hrun.cache, (h.now run.world run'.world hrun.world).2⟩

theorem alike_conclude (h : DiffersInTexts World p q) {outcome : Except Fault Reply × Run σ}
    {outcome' : Except Fault Reply × Run τ}
    (hagree : Agree (textBond World) (textBond World).Related outcome outcome') (started started' : Number) :
    SeenAlike (p.conclude started outcome.1 outcome.2) (q.conclude started' outcome'.1 outcome'.2) ∧
      LeftAlike World (p.conclude started outcome.1 outcome.2) (q.conclude started' outcome'.1 outcome'.2) := by
  cases hagree with
  | @ok reply run run' related =>
    refine ⟨⟨?_, rfl⟩, leftAlike_finish h related _ _ _ _ _ _⟩
    rw [statements_conclude, statements_conclude, related.events]
  | @error fault fault' run run' alike related =>
    have hkind : fault'.kind = fault.kind := alike
    have hreply : failedReply run'.record = failedReply run.record := related.read failedReply fun _ _ => rfl
    refine ⟨⟨?_, ?_⟩, ?_⟩
    · rw [statements_conclude, statements_conclude, related.events]
    · unfold conclude
      dsimp only
      rw [hkind, hreply]
      split
      · exact congrArg Except.error hkind
      · split
        · rfl
        · exact congrArg Except.error hkind
    · unfold conclude
      dsimp only
      rw [hkind]
      split
      · exact ⟨related.cache, related.world⟩
      · split
        · exact leftAlike_finish h related _ _ _ _ _ _
        · exact leftAlike_finish h related _ _ _ _ _ _

/-- A question comes to the same whatever the faults on its way say, at whatever time and under whatever identifier
it is asked. -/
theorem alike_ask (h : DiffersInTexts World p q) {world : σ} {world' : τ} (hworld : World world world')
    (timestamp timestamp' generated generated' : String) (question : Question) (id : Option String)
    (cache : Schema.Cache Number Schema.Snapshot) :
    SeenAlike (p.ask timestamp generated question cache world)
        (q.ask timestamp' generated' { question with requestId := id } cache world') ∧
      LeftAlike World (p.ask timestamp generated question cache world)
        (q.ask timestamp' generated' { question with requestId := id } cache world') := by
  cases hblank : Text.isEmptyOrBlank (question.text.getD "").toList with
  | true =>
    have hblank' : Text.isEmptyOrBlank (({ question with requestId := id } : Question).text.getD "").toList = true :=
      hblank
    rw [ask_of_blank hblank, ask_of_blank hblank']
    exact ⟨⟨rfl, rfl⟩, rfl, hworld⟩
  | false =>
    have hblank' : Text.isEmptyOrBlank (({ question with requestId := id } : Question).text.getD "").toList = false :=
      hblank
    obtain ⟨-, hbegun⟩ := h.now world world' hworld
    have hrelated : (textBond World).Related none (p.begun timestamp generated question cache world)
        (q.begun timestamp' generated' { question with requestId := id } cache world') :=
      ⟨hbegun, rfl, rfl, .nil, rfl⟩
    rw [ask_of_not_blank hblank, ask_of_not_blank hblank']
    exact alike_conclude h (h.joins.couples_answer question _ _ hrelated) _ _

theorem question_reply {question : Question} {run : Run σ} {outcome : Except Fault Reply × Run σ}
    (h : Course p question run outcome) {reply : Reply} (hreply : outcome.1 = .ok reply) :
    reply.question = outcome.2.record.question := by
  have hsettled : ∀ outcome : Except Fault (List ResultRow) × Run σ, (settled outcome).1 = .ok reply →
      reply.question = (settled outcome).2.record.question := by
    rintro ⟨fault | rows, left⟩ h
    · cases h
    · cases h
      rfl
  cases h with
  | ungrounded prompt => cases hreply
  | crashed prompt attempt => cases hreply
  | fellBack prompt attempt fallback => exact hsettled _ hreply
  | executed prompt attempt execution => exact hsettled _ hreply

/-- A reply is an answer or has the generic text, and it repeats the question. -/
theorem reply_ask {timestamp generated : String} {question : Question}
    {cache : Schema.Cache Number Schema.Snapshot} {world : σ} {reply : Reply}
    (h : (p.ask timestamp generated question cache world).result = .ok reply) :
    reply.question = question.text.getD "" ∧
      (reply.success = true ∨ reply.success = false ∧ reply.error = some failureMessage) := by
  cases hblank : Text.isEmptyOrBlank (question.text.getD "").toList with
  | true =>
    rw [ask_of_blank hblank] at h
    cases h
  | false =>
    have hcourse := course_answer p question (p.begun timestamp generated question cache world)
    have hquestion := congrArg Heading.question (heading_of_course hcourse)
    rw [ask_of_not_blank hblank] at h
    generalize Step.exec (p.answer question) (p.begun timestamp generated question cache world) = outcome
      at hcourse hquestion h
    obtain ⟨fault | answered, left⟩ := outcome
    · unfold conclude at h
      dsimp only at h
      split at h
      · cases h
      · split at h
        · cases h
          exact ⟨hquestion, .inr ⟨rfl, rfl⟩⟩
        · cases h
    · cases h
      exact ⟨(question_reply hcourse rfl).trans hquestion, .inl (reply_course hcourse rfl).1⟩

/-- The only fault of the service's own that a request ends with is that there is no question. -/
theorem eq_blankQuestion_of_ask {timestamp generated : String} {question : Question}
    {cache : Schema.Cache Number Schema.Snapshot} {world : σ} {fault : Fault}
    (h : (p.ask timestamp generated question cache world).result = .error fault) (hown : fault.kind.isOwn = true) :
    fault = blankQuestion := by
  cases hblank : Text.isEmptyOrBlank (question.text.getD "").toList with
  | true =>
    rw [ask_of_blank hblank] at h
    exact (Except.error.inj h).symm
  | false =>
    rw [ask_of_not_blank hblank] at h
    generalize Step.exec (p.answer question) (p.begun timestamp generated question cache world) = outcome at h
    obtain ⟨raised | answered, left⟩ := outcome
    · unfold conclude at h
      dsimp only at h
      split at h
      · rename_i hcancelled
        cases h
        rw [hcancelled] at hown
        cases hown
      · split at h
        · cases h
        · rename_i hforeign
          cases h
          exact absurd hown hforeign
    · cases h

/-! ## Questions one after another -/

theorem seenAlike_askAll (h : DiffersInTexts World p q) {askings askings' : List Asking}
    (hquestions : askings'.map (·.question) = askings.map (·.question))
    (cache : Schema.Cache Number Schema.Snapshot) {world : σ} {world' : τ} (hworld : World world world') :
    List.Forall₂ SeenAlike (p.askAll askings cache world) (q.askAll askings' cache world') := by
  induction askings generalizing askings' cache world world' with
  | nil =>
    rw [List.map_nil, List.map_eq_nil_iff] at hquestions
    subst hquestions
    exact .nil
  | cons asking askings ih =>
    cases askings' with
    | nil => cases hquestions
    | cons asking' askings' =>
      obtain ⟨hquestion, hrest⟩ : asking'.question = asking.question ∧ _ := List.cons.inj hquestions
      obtain ⟨hseen, hleft⟩ := alike_ask h hworld asking.timestamp asking'.timestamp asking.generated
        asking'.generated asking.question asking.question.requestId cache
      rw [askAll, askAll, hquestion]
      refine .cons hseen ?_
      rw [hleft.cache]
      exact ih hrest _ hleft.world

end Pipeline

end TenderQuery.Query
