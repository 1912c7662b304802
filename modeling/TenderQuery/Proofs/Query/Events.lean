import TenderQuery.Proofs.Query.Course

/-!
# What a request does to the outside

A request asks the introspector, then the model, then sends the model's statement and then that of a fallback
rule, each of the last three at most once; `events_course` says so together with where the statements come
from. The audit log comes last (`audited_conclude`).
-/
set_option autoImplicit false
namespace TenderQuery.Query.Pipeline
variable {σ : Type}

theorem events_abandoned (reason : FallbackReason) (message : String) (run : Run σ) :
    (abandoned reason message run).events = run.events := by
  unfold abandoned
  split
  · rfl
  · rfl

theorem events_attempt {p : Pipeline σ} {prompt : String} {run left : Run σ}
    {result : Except Fault (Except FallbackReason String)} (h : Attempt p prompt run (result, left)) :
    left.events = run.events ++ [.prompted (p.requestFor prompt)] := by
  cases h with
  | crashed answer unforeseen => rfl
  | raised answer foreseen => exact events_abandoned _ _ _
  | refused answer judged refused => exact events_abandoned _ _ _
  | accepted answer judged => rfl

/-- The statement that a fallback sends, if there is one. -/
theorem events_fallenBack {p : Pipeline σ} {reason : FallbackReason} {run : Run σ}
    {outcome : Except Fault (List ResultRow) × Run σ} (h : FallenBack p reason run outcome) :
    ∃ sql : Option String, outcome.2.events = run.events ++ sql.toList.map .sent ∧
      ∀ s ∈ sql, Fallback.statement p.config.rules run.record.question = .ok s := by
  cases h with
  | unavailable statement =>
    refine ⟨none, (List.append_nil _).symm, ?_⟩
    intro s hs
    cases hs
  | @sent sql result world statement answer =>
    refine ⟨some sql, rfl, ?_⟩
    intro s hs
    rw [Option.mem_some_iff.mp hs.symm]
    exact statement

/-- The model's statement is sent first, and then perhaps that of a fallback rule. -/
theorem events_executed {p : Pipeline σ} {sql : String} {run : Run σ}
    {outcome : Except Fault (List ResultRow) × Run σ} (h : Executed p sql run outcome) :
    ∃ fallback : Option String,
      outcome.2.events = run.events ++ .sent sql :: fallback.toList.map .sent ∧
      ∀ s ∈ fallback, Fallback.statement p.config.rules run.record.question = .ok s := by
  cases h with
  | rows answer => exact ⟨none, rfl, fun s hs => by cases hs⟩
  | failed answer unforeseen => exact ⟨none, rfl, fun s hs => by cases hs⟩
  | fellBack answer foreseen fallback =>
    obtain ⟨sent, hevents, hsent⟩ := events_fallenBack fallback
    refine ⟨sent, ?_, hsent⟩
    rw [hevents, events_abandoned]
    exact List.append_assoc _ _ _

theorem events_settled (outcome : Except Fault (List ResultRow) × Run σ) :
    (settled outcome).2.events = outcome.2.events := by
  obtain ⟨fault | rows, left⟩ := outcome
  · rfl
  · rfl

/-- All that the work on a question does, in order. The first statement is the one that the checks of the
model's answer gave, the second that of a fallback rule. -/
theorem events_course {p : Pipeline σ} {question : Question} {run : Run σ}
    {outcome : Except Fault Reply × Run σ} (h : Course p question run outcome) :
    ∃ (n : Nat) (request : Option Model.Request) (primary fallback : Option String),
      outcome.2.events = run.events ++ (List.replicate n .introspected ++ request.toList.map .prompted ++
        primary.toList.map .sent ++ fallback.toList.map .sent) ∧
      (∀ s ∈ primary, ∃ content, p.modelAnswer? question run = some (.ok content) ∧
        judge p.config.policy content = .accepted s) ∧
      ∀ s ∈ fallback, Fallback.statement p.config.rules run.record.question = .ok s := by
  have hground := grounds_buildPrompt p question.history question.useIntrospection run
  have hnone : ∀ {P : String → Prop}, ∀ s ∈ (none : Option String), P s := fun s hs => by cases hs
  obtain ⟨n, hn⟩ := hground.events
  have hheading := heading_of_grounded hground
  cases h with
  | ungrounded prompt =>
    rw [prompt] at hn
    exact ⟨n, none, none, none, by simpa using hn, hnone, hnone⟩
  | @crashed text fault grounded left prompt attempt =>
    rw [prompt] at hn
    refine ⟨n, some (p.requestFor text), none, none, ?_, hnone, hnone⟩
    rw [events_attempt attempt, Run.walk_events, hn]
    simp
  | @fellBack text reason grounded left outcome prompt attempt fallback =>
    rw [prompt] at hn hheading
    obtain ⟨sent, hevents, hsent⟩ := events_fallenBack fallback
    refine ⟨n, some (p.requestFor text), none, sent, ?_, hnone, ?_⟩
    · rw [events_settled, hevents, events_attempt attempt, Run.walk_events, hn]
      simp
    · have hquestion : left.record.question = run.record.question :=
        congrArg Heading.question ((heading_of_attempt attempt).trans hheading)
      exact hquestion ▸ hsent
  | @executed text sql grounded left outcome prompt attempt execution =>
    rw [prompt] at hn hheading
    obtain ⟨sent, hevents, hsent⟩ := events_executed execution
    refine ⟨n, some (p.requestFor text), some sql, sent, ?_, ?_, ?_⟩
    · rw [events_settled, hevents, events_attempt attempt, Run.walk_events, hn]
      simp
    · intro s hs
      rw [Option.mem_some_iff] at hs
      subst hs
      cases attempt with
      | @accepted content sql world answer judged =>
        refine ⟨content, ?_, judged⟩
        rw [modelAnswer_of_prompt prompt]
        exact congrArg (fun x => some x.1) answer
    · have hquestion : left.record.question = run.record.question :=
        congrArg Heading.question ((heading_of_attempt attempt).trans hheading)
      exact hquestion ▸ hsent

/-! ## Views of the events -/

def entries (events : List Event) : List Json :=
  events.filterMap fun | .audited entry => some entry | _ => none

def statements (events : List Event) : List String :=
  events.filterMap fun | .sent sql => some sql | _ => none

@[simp] theorem entries_append (as bs : List Event) : entries (as ++ bs) = entries as ++ entries bs :=
  List.filterMap_append

@[simp] theorem statements_append (as bs : List Event) :
    statements (as ++ bs) = statements as ++ statements bs :=
  List.filterMap_append

@[simp] theorem entries_introspected (n : Nat) : entries (List.replicate n .introspected) = [] := by
  simp [entries]

@[simp] theorem statements_introspected (n : Nat) : statements (List.replicate n .introspected) = [] := by
  simp [statements]

@[simp] theorem entries_prompted (requests : List Model.Request) : entries (requests.map .prompted) = [] := by
  simp [entries]

@[simp] theorem entries_sent (sqls : List String) : entries (sqls.map .sent) = [] := by
  simp [entries]

theorem mem_entries {events : List Event} {entry : Json} :
    entry ∈ entries events ↔ .audited entry ∈ events := by
  unfold entries
  rw [List.mem_filterMap]
  constructor
  · rintro ⟨event, hmem, hevent⟩
    cases event with
    | audited found =>
      cases hevent
      exact hmem
    | introspected => cases hevent
    | prompted request => cases hevent
    | sent sql => cases hevent
  · intro hmem
    exact ⟨_, hmem, rfl⟩

theorem entries_course {p : Pipeline σ} {question : Question} {run : Run σ}
    {outcome : Except Fault Reply × Run σ} (h : Course p question run outcome) :
    entries outcome.2.events = entries run.events := by
  obtain ⟨n, request, primary, fallback, hevents, -, -⟩ := events_course h
  rw [hevents]
  simp

/-! ## The end of a request -/

theorem entries_finish (p : Pipeline σ) (started : Number) (run : Run σ) (r : Record)
    (result : Except Fault Reply) (hrun : entries run.events = []) :
    ∃ record, (p.finish started run r result).record = some record ∧ record.states = r.states ∧
      entries (p.finish started run r result).events = [record.toEntry] := by
  refine ⟨_, rfl, rfl, ?_⟩
  unfold finish
  rw [entries_append, hrun]
  rfl

/-- If a request is handed to the audit log, then once, with the record that it leaves. -/
theorem entries_conclude (p : Pipeline σ) (started : Number) (result : Except Fault Reply) (run : Run σ)
    (hrun : entries run.events = []) :
    entries (p.conclude started result run).events = [] ∨
      ∃ record, (p.conclude started result run).record = some record ∧
        entries (p.conclude started result run).events = [record.toEntry] ∧
        record.states = run.record.states ++ (match result with | .ok _ => [] | .error _ => [.failed]) := by
  unfold conclude
  cases result with
  | ok reply =>
    obtain ⟨record, hrecord, hstates, hentries⟩ := entries_finish p started run run.record (.ok reply) hrun
    exact .inr ⟨record, hrecord, hentries, by rw [hstates, List.append_nil]⟩
  | error fault =>
    simp only
    split
    · exact .inl hrun
    · split
      · obtain ⟨record, hrecord, hstates, hentries⟩ :=
          entries_finish p started run (failedRecord run.record fault.message)
            (.ok (failedReply run.record)) hrun
        exact .inr ⟨record, hrecord, hentries, hstates⟩
      · obtain ⟨record, hrecord, hstates, hentries⟩ :=
          entries_finish p started run (failedRecord run.record fault.summary) (.error fault) hrun
        exact .inr ⟨record, hrecord, hentries, hstates⟩

end TenderQuery.Query.Pipeline
