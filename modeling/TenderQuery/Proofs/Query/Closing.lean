import TenderQuery.Proofs.Query.Past

/-!
# What is left of a request

`closed_ask` says what a request comes to together with what it hands to the audit log. There is one entry, made
from the record that the request leaves, unless the question is blank or the request is cancelled. The heading of
the record is the one that the request was begun with, and no fault is passed on that the service itself defines.
-/
set_option autoImplicit false
namespace TenderQuery.Query.Pipeline
variable {σ : Type}

/-- The ways in which a request ends. -/
inductive Closed (heading : Heading) : Answer σ → Prop where
  | blank {cache : Schema.Cache Number Schema.Snapshot} {world : σ} :
      Closed heading ⟨.error blankQuestion, none, [], cache, world⟩
  | cancelled {fault : Fault} {record : Record} {events : List Event} {cache : Schema.Cache Number Schema.Snapshot}
      {world : σ} (kind : fault.kind = .cancelled) (unaudited : entries events = []) :
      Closed heading ⟨.error fault, some record, events, cache, world⟩
  | replied {reply : Reply} {record : Record} {events : List Event} {cache : Schema.Cache Number Schema.Snapshot}
      {world : σ} (headed : record.heading = heading) (audited : entries events = [record.toEntry]) :
      Closed heading ⟨.ok reply, some record, events, cache, world⟩
  | crashed {fault : Fault} {record : Record} {events : List Event} {cache : Schema.Cache Number Schema.Snapshot}
      {world : σ} (unforeseen : fault.kind.isOwn = false) (kind : fault.kind ≠ .cancelled)
      (failed : record.success = false) (headed : record.heading = heading)
      (audited : entries events = [record.toEntry]) :
      Closed heading ⟨.error fault, some record, events, cache, world⟩

theorem closed_conclude (p : Pipeline σ) (started : Number) (result : Except Fault Reply) (run : Run σ)
    (hrun : entries run.events = []) : Closed run.record.heading (p.conclude started result run) := by
  have haudited : ∀ r : Record, entries (run.events ++ [.audited r.toEntry]) = [r.toEntry] := by
    intro r
    rw [entries_append, hrun]
    rfl
  unfold conclude
  cases result with
  | ok reply => exact .replied rfl (haudited _)
  | error fault =>
    dsimp only
    split
    · rename_i hkind
      exact .cancelled hkind hrun
    · rename_i hkind
      split
      · exact .replied rfl (haudited _)
      · rename_i hown
        exact .crashed (Bool.eq_false_iff.mpr hown) hkind rfl rfl (haudited _)

theorem closed_ask (p : Pipeline σ) (timestamp generated : String) (question : Question)
    (cache : Schema.Cache Number Schema.Snapshot) (world : σ) :
    Closed (newRecord timestamp (identify generated question.requestId) (question.text.getD "")).heading
      (p.ask timestamp generated question cache world) := by
  cases hblank : Text.isEmptyOrBlank (question.text.getD "").toList with
  | true =>
    rw [ask_of_blank hblank]
    exact .blank
  | false =>
    have hcourse := course_answer p question (p.begun timestamp generated question cache world)
    have hclosed := p.closed_conclude (p.collaborators.now world).1
      (Step.exec (p.answer question) (p.begun timestamp generated question cache world)).1 _ (entries_course hcourse)
    rw [heading_of_course hcourse] at hclosed
    rw [ask_of_not_blank hblank]
    exact hclosed

/-- Whatever is handed to the audit log is the entry of a record with the heading of the request. -/
theorem Closed.exists_record {heading : Heading} {answer : Answer σ} (h : Closed heading answer) {entry : Json}
    (hentry : entry ∈ entries answer.events) :
    ∃ record : Record, record.heading = heading ∧ entry = record.toEntry := by
  cases h with
  | blank => cases hentry
  | cancelled kind unaudited =>
    rw [unaudited] at hentry
    cases hentry
  | replied headed audited =>
    rw [audited, List.mem_singleton] at hentry
    exact ⟨_, headed, hentry⟩
  | crashed unforeseen kind failed headed audited =>
    rw [audited, List.mem_singleton] at hentry
    exact ⟨_, headed, hentry⟩

/-! ## Prompts -/

@[simp] theorem prompts_sent (sqls : List String) : prompts (sqls.map .sent) = [] := by
  simp [prompts]

theorem prompts_attempt {p : Pipeline σ} {text : String} {run grounded left : Run σ} {n : Nat}
    {result : Except Fault (Except FallbackReason String)}
    (hevents : grounded.events = run.events ++ List.replicate n .introspected)
    (h : Attempt p text (grounded.walk [.prompted]) (result, left)) :
    prompts left.events = prompts run.events ++ [p.requestFor text] := by
  rw [events_attempt h, Run.walk_events, hevents, prompts_append, prompts_append, prompts_introspected,
    List.append_nil]
  rfl

/-- The work on a question asks the model at most once, with the prompt that was built. -/
theorem prompts_course {p : Pipeline σ} {question : Question} {run : Run σ} {outcome : Except Fault Reply × Run σ}
    (h : Course p question run outcome) :
    prompts outcome.2.events = prompts run.events ∨ ∃ text grounded,
      Step.exec (p.buildPrompt question.history question.useIntrospection) run = (.ok text, grounded) ∧
        prompts outcome.2.events = prompts run.events ++ [p.requestFor text] := by
  obtain ⟨n, hn⟩ := (grounds_buildPrompt p question.history question.useIntrospection run).events
  cases h with
  | ungrounded prompt =>
    rw [prompt] at hn
    refine .inl ?_
    rw [hn, prompts_append, prompts_introspected, List.append_nil]
  | crashed prompt attempt =>
    have hgrounded := hn
    rw [prompt] at hgrounded
    exact .inr ⟨_, _, prompt, prompts_attempt hgrounded attempt⟩
  | fellBack prompt attempt fallback =>
    have hgrounded := hn
    rw [prompt] at hgrounded
    obtain ⟨sent, hevents, -⟩ := events_fallenBack fallback
    refine .inr ⟨_, _, prompt, ?_⟩
    rw [events_settled, hevents, prompts_append, prompts_sent, List.append_nil, prompts_attempt hgrounded attempt]
  | @executed text sql grounded left outcome prompt attempt execution =>
    have hgrounded := hn
    rw [prompt] at hgrounded
    obtain ⟨sent, hevents, -⟩ := events_executed execution
    refine .inr ⟨_, _, prompt, ?_⟩
    have hsent : prompts (.sent sql :: sent.toList.map .sent) = [] := prompts_sent (sql :: sent.toList)
    rw [events_settled, hevents, prompts_append, hsent, List.append_nil, prompts_attempt hgrounded attempt]

/-- A prompt is made of the escaped question of the record and of a live snapshot or none. -/
theorem exec_buildPrompt {p : Pipeline σ} {history : List Prompt.Turn} {useIntrospection : Bool}
    {run grounded : Run σ} {text : String}
    (h : Step.exec (p.buildPrompt history useIntrospection) run = (.ok text, grounded)) :
    text = p.config.composer.composeStatic run.record.escapedQuestion history ∨
      ∃ snapshot, text = p.config.composer.compose run.record.escapedQuestion snapshot history := by
  have hheading := heading_of_grounded (grounds_liveSchema p useIntrospection run)
  unfold buildPrompt at h
  cases hlive : Step.exec (p.liveSchema? useIntrospection) run with
  | mk result found =>
    rw [hlive] at hheading
    have hescaped : found.record.escapedQuestion = run.record.escapedQuestion :=
      congrArg Heading.escapedQuestion hheading
    cases result with
    | error fault =>
      rw [Step.exec_bind_of_error hlive] at h
      cases h
    | ok live =>
      rw [Step.exec_bind_of_ok hlive, Step.exec_bind, Step.exec_get] at h
      dsimp only at h
      rw [hescaped] at h
      cases live with
      | none =>
        cases h
        exact .inl rfl
      | some snapshot =>
        cases h
        exact .inr ⟨snapshot, rfl⟩

/-- The prompts of a request are made of its question without the blanks around it, escaped. -/
theorem prompts_ask {p : Pipeline σ} {timestamp generated : String} {question : Question}
    {cache : Schema.Cache Number Schema.Snapshot} {world : σ} {request : Model.Request}
    (h : request ∈ prompts (p.ask timestamp generated question cache world).events) :
    request.prompt = p.config.composer.composeStatic
        (Prompt.escape (Text.trimString (question.text.getD ""))) question.history ∨
      ∃ snapshot, request.prompt = p.config.composer.compose
        (Prompt.escape (Text.trimString (question.text.getD ""))) snapshot question.history := by
  cases hblank : Text.isEmptyOrBlank (question.text.getD "").toList with
  | true =>
    rw [ask_of_blank hblank] at h
    cases h
  | false =>
    have hcourse := course_answer p question (p.begun timestamp generated question cache world)
    rw [ask_of_not_blank hblank, (concludes p _ _ _).events, prompts_append, prompts_audited, List.append_nil] at h
    have hbegun : prompts (p.begun timestamp generated question cache world).events = [] := rfl
    obtain hnone | ⟨text, grounded, hprompt, hasked⟩ := prompts_course hcourse
    · rw [hnone, hbegun] at h
      cases h
    · rw [hasked, hbegun, List.nil_append, List.mem_singleton] at h
      have hbuilt := exec_buildPrompt hprompt
      have hescaped : (p.begun timestamp generated question cache world).record.escapedQuestion =
          Prompt.escape (Text.trimString (question.text.getD "")) := rfl
      rw [hescaped] at hbuilt
      rw [h]
      exact hbuilt

end TenderQuery.Query.Pipeline
