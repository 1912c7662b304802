import Mathlib.Data.List.Chain
import TenderQuery.Proofs.Fallback.Selection
import TenderQuery.Proofs.Query.Events

/-!
# The path of a request

The states of a record that reaches the audit log are a path from `start` to `done` or `failed`. `Edge` lists
the steps of such a path; two of them need a reason outside the path, which is what the model raised and
whether a fallback rule fails. The ranks grow along every edge, so no state is entered twice.
-/
set_option autoImplicit false
namespace TenderQuery.Query

/-! ## Edges -/

namespace State

/-- The states in which the model's statement is given up. -/
def isAbandonment : State → Bool
  | modelFailed | empty | rejected | badSyntax | execError => true
  | _ => false

/-- The states in which a fault that nothing makes up for ends the work. -/
def isFragile : State → Bool
  | start | prompted | executing | fallbackExecuting => true
  | _ => false

def rank : State → Nat
  | start => 0
  | prompted => 1
  | modelCalled => 2
  | normalized => 3
  | validated => 4
  | policyApplied => 5
  | syntaxChecked => 6
  | executing => 7
  | modelFailed | empty | rejected | badSyntax | execError => 8
  | fallback => 9
  | fallbackExecuting => 10
  | done | failed => 11

end State

/-- The steps from state to state, given the kind of fault that the model raised, if it did, and whether a
fallback rule fails. -/
inductive Edge (raised : Option FaultKind) (ruleFails : Prop) : State → State → Prop where
  | prompt : Edge raised ruleFails .start .prompted
  | call : Edge raised ruleFails .prompted .modelCalled
  | modelFails : Edge raised ruleFails .prompted .modelFailed
  | modelRefuses (h : raised = some .noQueryGenerated ∨ raised = some .unsafeQuery ∨ raised = some .badSyntax) :
      Edge raised ruleFails .prompted .fallback
  | normalize : Edge raised ruleFails .modelCalled .normalized
  | nothing : Edge raised ruleFails .modelCalled .empty
  | validate : Edge raised ruleFails .normalized .validated
  | reject : Edge raised ruleFails .normalized .rejected
  | applyPolicy : Edge raised ruleFails .validated .policyApplied
  | check : Edge raised ruleFails .policyApplied .syntaxChecked
  | misshapen : Edge raised ruleFails .policyApplied .badSyntax
  | execute : Edge raised ruleFails .syntaxChecked .executing
  | succeed : Edge raised ruleFails .executing .done
  | executionFails : Edge raised ruleFails .executing .execError
  | fallBack {s : State} (h : s.isAbandonment = true) : Edge raised ruleFails s .fallback
  | executeFallback : Edge raised ruleFails .fallback .fallbackExecuting
  | succeedByFallback : Edge raised ruleFails .fallbackExecuting .done
  | fail {s : State} (h : s.isFragile = true) : Edge raised ruleFails s .failed
  | ruleFails {s : State} (h : s.isAbandonment = true) (hrule : ruleFails) : Edge raised ruleFails s .failed

theorem Edge.rank_lt {raised : Option FaultKind} {ruleFails : Prop} {s t : State}
    (h : Edge raised ruleFails s t) : s.rank < t.rank := by
  cases h with
  | fallBack h => cases s <;> simp_all [State.isAbandonment, State.rank]
  | fail h => cases s <;> simp_all [State.isFragile, State.rank]
  | ruleFails h _ => cases s <;> simp_all [State.isAbandonment, State.rank]
  | _ => decide

/-! ## Paths -/

/-- A list of states that begins with `start`, goes along edges and ends with the given state. -/
inductive Path (edge : State → State → Prop) : List State → State → Prop where
  | start : Path edge [.start] .start
  | enter {trail : List State} {s t : State} (path : Path edge trail s) (step : edge s t) :
      Path edge (trail ++ [t]) t

namespace Path
variable {edge : State → State → Prop} {trail : List State} {s : State}

theorem head (h : Path edge trail s) : trail.head? = some .start := by
  induction h with
  | start => rfl
  | enter _ _ ih => rw [List.head?_append, ih, Option.some_or]

theorem last (h : Path edge trail s) : trail.getLast? = some s := by
  cases h with
  | start => rfl
  | enter => exact List.getLast?_concat

theorem isChain (h : Path edge trail s) : trail.IsChain edge := by
  induction h with
  | start => exact List.isChain_singleton _
  | enter path step ih =>
    refine List.isChain_append.mpr ⟨ih, List.isChain_singleton _, ?_⟩
    intro x hx y hy
    rw [path.last, Option.mem_some_iff] at hx
    rw [List.head?_singleton, Option.mem_some_iff] at hy
    exact hx ▸ hy ▸ step

/-- Ranks that grow along every edge keep a path from coming back to a state. -/
theorem nodup (rank : State → Nat) (hrank : ∀ s t, edge s t → rank s < rank t) (h : Path edge trail s) :
    trail.Nodup := by
  have htrans : ∀ {s t u}, rank s < rank t → rank t < rank u → rank s < rank u := Nat.lt_trans
  have : Trans (fun s t => rank s < rank t) (fun s t => rank s < rank t) (fun s t => rank s < rank t) :=
    ⟨htrans⟩
  have hpairwise := List.isChain_iff_pairwise.mp (h.isChain.imp hrank)
  refine hpairwise.imp ?_
  rintro s t hlt rfl
  exact Nat.lt_irrefl _ hlt

theorem walk (h : Path edge trail s) : ∀ {more : List State}, (s :: more).IsChain edge →
    Path edge (trail ++ more) ((s :: more).getLast (List.cons_ne_nil s more)) := by
  intro more
  induction more generalizing trail s with
  | nil =>
    intro _
    rw [List.append_nil]
    exact h
  | cons t more ih =>
    intro hchain
    rw [List.isChain_cons_cons] at hchain
    have hrest := ih (h.enter hchain.1) hchain.2
    rw [List.append_assoc, List.singleton_append] at hrest
    rw [List.getLast_cons (List.cons_ne_nil t more)]
    exact hrest

end Path

/-! ## Stages -/

namespace Pipeline
variable {σ : Type} {raised : Option FaultKind} {ruleFails : Prop}

/-- The verdict on the model's answer is reached along edges, and a refusal leaves the request in a state
that a fallback may follow. -/
theorem isChain_trail (verdict : Verdict) :
    (.modelCalled :: verdict.trail).IsChain (Edge raised ruleFails) := by
  cases verdict with
  | empty => exact List.isChain_pair.mpr .nothing
  | rejected violation =>
    exact List.isChain_cons_cons.mpr ⟨.normalize, List.isChain_pair.mpr .reject⟩
  | badSyntax defect =>
    refine List.isChain_cons_cons.mpr ⟨.normalize, List.isChain_cons_cons.mpr ⟨.validate, ?_⟩⟩
    exact List.isChain_cons_cons.mpr ⟨.applyPolicy, List.isChain_pair.mpr .misshapen⟩
  | accepted sql =>
    refine List.isChain_cons_cons.mpr ⟨.normalize, List.isChain_cons_cons.mpr ⟨.validate, ?_⟩⟩
    exact List.isChain_cons_cons.mpr ⟨.applyPolicy, List.isChain_pair.mpr .check⟩

/-- The request has come to a state from which a fallback can be taken, or the work fails if no rule gives
a statement. -/
def IsGivenUp (raised : Option FaultKind) (ruleFails : Prop) (states : List State) : Prop :=
  ∃ s, Path (Edge raised ruleFails) states s ∧ Edge raised ruleFails s .fallback ∧
    (ruleFails → Edge raised ruleFails s .failed)

theorem IsGivenUp.of_isAbandonment {states : List State} {s : State}
    (hpath : Path (Edge raised ruleFails) states s) (h : s.isAbandonment = true) :
    IsGivenUp raised ruleFails states :=
  ⟨s, hpath, .fallBack h, .ruleFails h⟩

theorem isGivenUp_raised {p : Pipeline σ} {prompt : String} {run : Run σ} {fault : Fault}
    {reason : FallbackReason} {world : σ} (hpath : Path (Edge raised ruleFails) run.record.states .prompted)
    (hraised : raised = some fault.kind) (hreason : abandonment? fault.kind = some reason) :
    IsGivenUp raised ruleFails
      (abandoned reason fault.message (p.asked prompt world run)).record.states := by
  cases hkind : fault.kind with
  | modelUnavailable =>
    rw [hkind] at hreason
    cases hreason
    exact .of_isAbandonment (hpath.enter .modelFails) rfl
  | noQueryGenerated =>
    rw [hkind] at hraised hreason
    cases hreason
    exact ⟨.prompted, hpath, .modelRefuses (.inl hraised), fun _ => .fail rfl⟩
  | unsafeQuery =>
    rw [hkind] at hraised hreason
    cases hreason
    exact ⟨.prompted, hpath, .modelRefuses (.inr (.inl hraised)), fun _ => .fail rfl⟩
  | badSyntax =>
    rw [hkind] at hraised hreason
    cases hreason
    exact ⟨.prompted, hpath, .modelRefuses (.inr (.inr hraised)), fun _ => .fail rfl⟩
  | _ =>
    rw [hkind] at hreason
    cases hreason

theorem path_judged {p : Pipeline σ} {run : Run σ}
    (hpath : Path (Edge raised ruleFails) run.record.states .prompted) (content : Json) :
    Path (Edge raised ruleFails) (p.judged content run).record.states
      ((State.modelCalled :: (judge p.config.policy content).trail).getLast (List.cons_ne_nil _ _)) :=
  hpath.walk (List.isChain_cons_cons.mpr ⟨.call, isChain_trail _⟩)

theorem isGivenUp_refused {p : Pipeline σ} {run : Run σ} {content : Json} {reason : FallbackReason}
    {message : String} (hpath : Path (Edge raised ruleFails) run.record.states .prompted)
    (hrefused : (judge p.config.policy content).refusal? = some (reason, message)) :
    IsGivenUp raised ruleFails (abandoned reason message (p.judged content run)).record.states := by
  have hjudged := @path_judged _ _ _ p run hpath content
  cases hverdict : judge p.config.policy content with
  | empty =>
    rw [hverdict] at hrefused hjudged
    cases hrefused
    exact .of_isAbandonment hjudged rfl
  | rejected violation =>
    rw [hverdict] at hrefused hjudged
    cases hrefused
    exact .of_isAbandonment hjudged rfl
  | badSyntax defect =>
    rw [hverdict] at hrefused hjudged
    cases hrefused
    exact .of_isAbandonment hjudged rfl
  | accepted sql =>
    rw [hverdict] at hrefused
    cases hrefused

/-- Where the model step leaves the path. -/
def Stands (raised : Option FaultKind) (ruleFails : Prop) (states : List State) :
    Except Fault (Except FallbackReason String) → Prop
  | .error _ => Path (Edge raised ruleFails) states .prompted
  | .ok (.error _) => IsGivenUp raised ruleFails states
  | .ok (.ok _) => Path (Edge raised ruleFails) states .syntaxChecked

theorem path_attempt {p : Pipeline σ} {prompt : String} {run left : Run σ}
    {result : Except Fault (Except FallbackReason String)} (h : Attempt p prompt run (result, left))
    (hpath : Path (Edge raised ruleFails) run.record.states .prompted)
    (hraised : ∀ fault, (p.collaborators.complete (p.requestFor prompt) run.world).1 = .error fault →
      raised = some fault.kind) :
    Stands raised ruleFails left.record.states result := by
  cases h with
  | crashed answer unforeseen => exact hpath
  | raised answer foreseen => exact isGivenUp_raised hpath (hraised _ (by rw [answer])) foreseen
  | @refused content verdict reason message world answer judged refused =>
    subst judged
    have hasked : Path (Edge raised ruleFails) (p.asked prompt world run).record.states .prompted := hpath
    exact isGivenUp_refused hasked refused
  | @accepted content sql world answer judged =>
    have hjudged := @path_judged _ _ _ p (p.asked prompt world run) hpath content
    rw [judged] at hjudged
    exact hjudged

/-- The request can end: with `done` if there is a result, and with `failed` otherwise. -/
def CanEnd (raised : Option FaultKind) (ruleFails : Prop) {α : Type} (result : Except Fault α)
    (states : List State) : Prop :=
  ∃ s, Path (Edge raised ruleFails) states s ∧
    Edge raised ruleFails s (match result with | .ok _ => .done | .error _ => .failed)

theorem canEnd_fallenBack {p : Pipeline σ} {reason : FallbackReason} {run : Run σ}
    {outcome : Except Fault (List ResultRow) × Run σ} (h : FallenBack p reason run outcome)
    (hpath : IsGivenUp raised ruleFails run.record.states)
    (hrule : ∀ fault, Fallback.statement p.config.rules run.record.question = .error fault → ruleFails) :
    CanEnd raised ruleFails outcome.1 outcome.2.record.states := by
  obtain ⟨s, hpath, hfallback, hfail⟩ := hpath
  cases h with
  | unavailable statement => exact ⟨s, hpath, hfail (hrule _ statement)⟩
  | @sent sql result world statement answer =>
    have hwalk := hpath.walk (List.isChain_cons_cons.mpr ⟨hfallback, List.isChain_pair.mpr .executeFallback⟩)
    refine ⟨.fallbackExecuting, hwalk, ?_⟩
    cases result with
    | ok rows => exact .succeedByFallback
    | error fault => exact .fail rfl

theorem canEnd_executed {p : Pipeline σ} {sql : String} {run : Run σ}
    {outcome : Except Fault (List ResultRow) × Run σ} (h : Executed p sql run outcome)
    (hpath : Path (Edge raised ruleFails) run.record.states .syntaxChecked)
    (hrule : ∀ fault, Fallback.statement p.config.rules run.record.question = .error fault → ruleFails) :
    CanEnd raised ruleFails outcome.1 outcome.2.record.states := by
  cases h with
  | rows answer => exact ⟨.executing, hpath.enter .execute, .succeed⟩
  | failed answer unforeseen => exact ⟨.executing, hpath.enter .execute, .fail rfl⟩
  | fellBack answer foreseen fallback =>
    refine canEnd_fallenBack fallback ?_ hrule
    exact .of_isAbandonment ((hpath.enter .execute).enter .executionFails) rfl

def modelFault? (p : Pipeline σ) (question : Question) (run : Run σ) : Option FaultKind :=
  match p.modelAnswer? question run with
  | some (.error fault) => some fault.kind
  | _ => none

theorem modelFault_of_raised {p : Pipeline σ} {question : Question} {run grounded : Run σ} {prompt : String}
    {fault : Fault}
    (hprompt : Step.exec (p.buildPrompt question.history question.useIntrospection) run =
      (.ok prompt, grounded))
    (hanswer : (p.collaborators.complete (p.requestFor prompt) grounded.world).1 = .error fault) :
    p.modelFault? question run = some fault.kind := by
  unfold modelFault?
  rw [modelAnswer_of_prompt hprompt, hanswer]

/-! ## Whole requests -/

/-- Where the work on a question leaves the path: at `done`, or where it can fail. -/
def IsOver (raised : Option FaultKind) (ruleFails : Prop) (states : List State) : Except Fault Reply → Prop
  | .ok _ => Path (Edge raised ruleFails) states .done
  | .error fault => CanEnd raised ruleFails (.error fault : Except Fault Reply) states

theorem isOver_settled {outcome : Except Fault (List ResultRow) × Run σ}
    (h : CanEnd raised ruleFails outcome.1 outcome.2.record.states) :
    IsOver raised ruleFails (settled outcome).2.record.states (settled outcome).1 := by
  obtain ⟨result, left⟩ := outcome
  obtain ⟨s, hpath, hedge⟩ := h
  cases result with
  | ok rows => exact hpath.enter hedge
  | error fault => exact ⟨s, hpath, hedge⟩

/-- Up to the model step a request comes along edges. -/
theorem path_until_attempt {p : Pipeline σ} {question : Question} {run grounded left : Run σ}
    {text : String}
    {result : Except Fault (Except FallbackReason String)} (hstart : run.record.states = [.start])
    (hprompt : Step.exec (p.buildPrompt question.history question.useIntrospection) run =
      (.ok text, grounded))
    (h : Attempt p text (grounded.walk [.prompted]) (result, left)) :
    left.record.question = run.record.question ∧
      Stands (p.modelFault? question run) ruleFails left.record.states result := by
  have hground := grounds_buildPrompt p question.history question.useIntrospection run
  rw [hprompt] at hground
  obtain ⟨notes, hrecord⟩ := hground.record
  have hstates : grounded.record.states = [.start] := by rw [hrecord]; exact hstart
  have hheading : grounded.record.heading = run.record.heading := heading_of_grounded hground
  refine ⟨congrArg Heading.question ((heading_of_attempt h).trans hheading), ?_⟩
  have hpath : Path (Edge (p.modelFault? question run) ruleFails) [.start, .prompted] .prompted :=
    Path.start.enter .prompt
  refine path_attempt h ?_ fun fault hanswer => ?_
  · rw [Run.walk_states, hstates]
    exact hpath
  · exact @modelFault_of_raised _ p question run grounded text fault hprompt hanswer

/-- Every course of a request goes along edges, from the start to where it can end. -/
theorem isOver_course {p : Pipeline σ} {question : Question} {run : Run σ}
    {outcome : Except Fault Reply × Run σ} (h : Course p question run outcome)
    (hstart : run.record.states = [.start])
    (hrule : ∀ fault, Fallback.statement p.config.rules run.record.question = .error fault → ruleFails) :
    IsOver (p.modelFault? question run) ruleFails outcome.2.record.states outcome.1 := by
  cases h with
  | @ungrounded fault grounded prompt =>
    have hground := grounds_buildPrompt p question.history question.useIntrospection run
    rw [prompt] at hground
    obtain ⟨notes, hrecord⟩ := hground.record
    have hstates : grounded.record.states = [.start] := by rw [hrecord]; exact hstart
    exact ⟨.start, hstates ▸ .start, .fail rfl⟩
  | crashed prompt attempt =>
    obtain ⟨-, hpath⟩ := path_until_attempt hstart prompt attempt
    exact ⟨.prompted, hpath, .fail rfl⟩
  | fellBack prompt attempt fallback =>
    obtain ⟨hquestion, hpath⟩ := path_until_attempt hstart prompt attempt
    exact isOver_settled (canEnd_fallenBack fallback hpath (hquestion ▸ hrule))
  | executed prompt attempt execution =>
    obtain ⟨hquestion, hpath⟩ := path_until_attempt hstart prompt attempt
    exact isOver_settled (canEnd_executed execution hpath (hquestion ▸ hrule))

/-- The path of an audited record, given what the model raised and whether a rule failed. -/
theorem path_of_audited {p : Pipeline σ} {timestamp generated : String} {question : Question}
    {cache : Schema.Cache Number Schema.Snapshot} {world : σ} {entry : Json}
    (hrule : ∀ fault, Fallback.statement p.config.rules (question.text.getD "") = .error fault → ruleFails)
    (h : .audited entry ∈ (p.ask timestamp generated question cache world).events) :
    ∃ record, (p.ask timestamp generated question cache world).record = some record ∧
      entry = record.toEntry ∧ ∃ s, (s = .done ∨ s = .failed) ∧
      Path (Edge (p.modelFault? question (p.begun timestamp generated question cache world)) ruleFails)
        record.states s := by
  cases hblank : Text.isEmptyOrBlank (question.text.getD "").toList with
  | true =>
    rw [ask_of_blank hblank] at h
    cases h
  | false =>
    have hcourse := course_answer p question (p.begun timestamp generated question cache world)
    have hover := isOver_course hcourse rfl hrule
    have hentries := entries_course hcourse
    rw [ask_of_not_blank hblank] at h ⊢
    generalize Step.exec (p.answer question) (p.begun timestamp generated question cache world) = outcome
      at h hover hentries ⊢
    rw [← mem_entries] at h
    obtain hnone | ⟨record, hrecord, hlog, hstates⟩ :=
      entries_conclude p (p.collaborators.now world).1 outcome.1 outcome.2 hentries
    · rw [hnone] at h
      cases h
    · rw [hlog, List.mem_singleton] at h
      refine ⟨record, hrecord, h, ?_⟩
      rw [hstates]
      obtain ⟨fault | reply, left⟩ := outcome
      · obtain ⟨s, hpath, hedge⟩ := hover
        exact ⟨.failed, .inr rfl, hpath.enter hedge⟩
      · refine ⟨.done, .inl rfl, ?_⟩
        rw [List.append_nil]
        exact hover

/-- The states of every record that reaches the audit log are a path along edges that begins with `start`,
ends with `done` or `failed` and enters no state twice. -/
theorem states_form_path {p : Pipeline σ} {timestamp generated : String} {question : Question}
    {cache : Schema.Cache Number Schema.Snapshot} {world : σ} {entry : Json} (hrules : p.config.rules ≠ [])
    (h : .audited entry ∈ (p.ask timestamp generated question cache world).events) :
    ∃ record, (p.ask timestamp generated question cache world).record = some record ∧
      entry = record.toEntry ∧
      record.states.head? = some .start ∧
      (record.states.getLast? = some .done ∨ record.states.getLast? = some .failed) ∧
      record.states.Nodup ∧
      record.states.IsChain
        (Edge (p.modelFault? question (p.begun timestamp generated question cache world))
          (Fallback.RuleFails p.config.rules (question.text.getD ""))) := by
  obtain ⟨record, hrecord, hentry, s, hs, hpath⟩ :=
    path_of_audited (fun fault => Fallback.ruleFails_of_statement_error hrules) h
  have hnodup := hpath.nodup State.rank fun _ _ => Edge.rank_lt
  refine ⟨record, hrecord, hentry, hpath.head, ?_, hnodup, hpath.isChain⟩
  obtain rfl | rfl := hs
  · exact .inl hpath.last
  · exact .inr hpath.last

/-- A pipeline without a model, which answers every question by one statement. -/
def unaided : Pipeline Unit where
  config := { rules := [⟨"any", .always, "SELECT 1"⟩] }
  collaborators :=
    { complete := fun _ world => (.error ⟨.modelUnavailable, "offline"⟩, world)
      fetchAll := fun _ world => (.ok [], world)
      introspect := none
      now := fun world => (.whole 0, world)
      cacheNow := fun world => (.whole 0, world) }

def unaidedQuestion : Question := { text := some "Which tenders closed?" }

theorem states_form_path_unaided :
    unaided.config.rules ≠ [] ∧
      ∃ entry, .audited entry ∈ (unaided.ask "t" "id" unaidedQuestion ⟨none⟩ ()).events ∧
      ∃ record, (unaided.ask "t" "id" unaidedQuestion ⟨none⟩ ()).record = some record ∧
        entry = record.toEntry ∧
        record.states.head? = some .start ∧
        (record.states.getLast? = some .done ∨ record.states.getLast? = some .failed) ∧
        record.states.Nodup ∧
        record.states.IsChain
          (Edge (unaided.modelFault? unaidedQuestion (unaided.begun "t" "id" unaidedQuestion ⟨none⟩ ()))
            (Fallback.RuleFails unaided.config.rules "Which tenders closed?")) := by
  have hrules : unaided.config.rules ≠ [] := List.cons_ne_nil _ _
  obtain ⟨entry, hentry⟩ : ∃ entry,
      (unaided.ask "t" "id" unaidedQuestion ⟨none⟩ ()).events.getLast? = some (.audited entry) := ⟨_, rfl⟩
  have hmem := List.mem_of_getLast? hentry
  exact ⟨hrules, entry, hmem, states_form_path hrules hmem⟩

example : (unaided.ask "t" "id" unaidedQuestion ⟨none⟩ ()).record.map (·.states) =
    some [.start, .prompted, .modelFailed, .fallback, .fallbackExecuting, .done] := rfl

end Pipeline

end TenderQuery.Query
