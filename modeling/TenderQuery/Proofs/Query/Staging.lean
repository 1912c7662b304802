import TenderQuery.Query.Candidate

/-!
# The stages of a candidate

A candidate is called upon to move on, any number of times and in any order, and a refusal is caught. A call is
accepted or changes nothing (`attempt_cases`). The accepted calls name, one by one, the stages that were ahead
(`stages_accepted`), and the text is the last one that they gave (`text_attemptAll`). So a candidate that starts at
the first stage can be executed exactly when it has accepted all four that follow (`accepted_in_order`).
-/
set_option autoImplicit false
namespace TenderQuery.Query

/-! ## The way ahead -/

namespace Stage

/-- The stages that are left, in order. -/
def ahead (stage : Stage) : List Stage := all.filter fun next => stage.rank < next.rank

theorem ahead_of_rank {stage next : Stage} (h : next.rank = stage.rank + 1) : stage.ahead = next :: next.ahead := by
  cases stage <;> cases next <;> revert h <;> decide

theorem ahead_eq_nil_iff (stage : Stage) : stage.ahead = [] ↔ stage = final := by
  cases stage <;> decide

theorem exists_next {stage : Stage} (h : stage ≠ final) : ∃ next : Stage, next.rank = stage.rank + 1 := by
  cases stage with
  | normalized => exact ⟨validated, rfl⟩
  | validated => exact ⟨policyApplied, rfl⟩
  | policyApplied => exact ⟨syntaxChecked, rfl⟩
  | syntaxChecked => exact ⟨final, rfl⟩
  | final => exact absurd rfl h

end Stage

/-! ## Calls -/

/-- What a candidate is asked for: the stage to move to, with a new text or without. -/
structure Call where
  stage : Stage
  text : Option String
  deriving DecidableEq, Repr

namespace Candidate

/-- The candidate behind a call. A refusal is caught and leaves the candidate that there was. -/
def attempt (c : Candidate) (call : Call) : Candidate :=
  match c.advance call.stage call.text with
  | .ok next => next
  | .error _ => c

def attemptAll (c : Candidate) (calls : List Call) : Candidate := calls.foldl attempt c

/-- The calls that are not refused, in order. -/
def accepted : Candidate → List Call → List Call
  | _, [] => []
  | c, call :: calls =>
    match c.advance call.stage call.text with
    | .ok next => call :: accepted next calls
    | .error _ => accepted c calls

/-- The refusal of a step from one stage to another. -/
def refusal (c : Candidate) (stage : Stage) : Fault :=
  ⟨.stageOrder, "Cannot move query from " ++ c.stage.label ++ " to " ++ stage.label⟩

/-! ## One call -/

/-- All that a call can do: it is accepted for the next stage, or it is refused and changes nothing. -/
theorem attempt_cases (c : Candidate) (call : Call) :
    (call.stage.rank = c.stage.rank + 1 ∧ c.advance call.stage call.text = .ok (c.attempt call) ∧
        c.attempt call = ⟨call.stage, call.text.getD c.text⟩ ∧ c.accepted [call] = [call]) ∨
      (c.advance call.stage call.text = .error (c.refusal call.stage) ∧ c.attempt call = c ∧
        c.accepted [call] = []) := by
  by_cases h : call.stage.rank = c.stage.rank + 1
  · have hadvance : c.advance call.stage call.text = .ok ⟨call.stage, call.text.getD c.text⟩ := by
      rw [advance, if_pos h]
    have hattempt : c.attempt call = ⟨call.stage, call.text.getD c.text⟩ := by simp only [attempt, hadvance]
    exact .inl ⟨h, by rw [hadvance, hattempt], hattempt, by simp only [accepted, hadvance]⟩
  · have hadvance : c.advance call.stage call.text = .error (c.refusal call.stage) := by
      rw [advance, if_neg h, refusal]
    exact .inr ⟨hadvance, by simp only [attempt, hadvance], by simp only [accepted, hadvance]⟩

/-- A call and the way ahead behind it make up the way that was ahead. -/
theorem stages_attempt (c : Candidate) (call : Call) :
    (c.accepted [call]).map Call.stage ++ (c.attempt call).stage.ahead = c.stage.ahead := by
  obtain ⟨hrank, -, hattempt, haccepted⟩ | ⟨-, hattempt, haccepted⟩ := attempt_cases c call
  · rw [hattempt, haccepted, Stage.ahead_of_rank hrank]
    rfl
  · rw [hattempt, haccepted]
    rfl

/-- An empty text is a text like any other. -/
theorem text_attempt (c : Candidate) (call : Call) :
    (c.attempt call).text = ((c.accepted [call]).filterMap Call.text).getLast?.getD c.text := by
  obtain ⟨-, -, hattempt, haccepted⟩ | ⟨-, hattempt, haccepted⟩ := attempt_cases c call
  · rw [hattempt, haccepted]
    cases htext : call.text with
    | none => rw [List.filterMap_cons_none htext]; rfl
    | some text => rw [List.filterMap_cons_some htext]; rfl
  · rw [hattempt, haccepted]
    rfl

/-! ## Calls in a row -/

theorem attemptAll_cons (c : Candidate) (call : Call) (calls : List Call) :
    c.attemptAll (call :: calls) = (c.attempt call).attemptAll calls := List.foldl_cons ..

theorem accepted_cons (c : Candidate) (call : Call) (calls : List Call) :
    c.accepted (call :: calls) = c.accepted [call] ++ (c.attempt call).accepted calls := by
  simp only [accepted, attempt]
  cases c.advance call.stage call.text <;> rfl

theorem accepted_append (c : Candidate) (calls more : List Call) :
    c.accepted (calls ++ more) = c.accepted calls ++ (c.attemptAll calls).accepted more := by
  induction calls generalizing c with
  | nil => rfl
  | cons call calls ih =>
    rw [List.cons_append, attemptAll_cons, accepted_cons, ih, accepted_cons c call calls, List.append_assoc]

/-- The accepted calls have taken the candidate along the way that was ahead, stage by stage. -/
theorem stages_accepted (c : Candidate) (calls : List Call) :
    (c.accepted calls).map Call.stage ++ (c.attemptAll calls).stage.ahead = c.stage.ahead := by
  induction calls generalizing c with
  | nil => rfl
  | cons call calls ih =>
    rw [accepted_cons, attemptAll_cons, List.map_append, List.append_assoc, ih, stages_attempt]

theorem text_attemptAll (c : Candidate) (calls : List Call) :
    (c.attemptAll calls).text = ((c.accepted calls).filterMap Call.text).getLast?.getD c.text := by
  induction calls generalizing c with
  | nil => rfl
  | cons call calls ih =>
    rw [accepted_cons, attemptAll_cons, ih, text_attempt, List.filterMap_append, List.getLast?_append, Option.getD_or]

theorem finalText_eq_ok_iff (c : Candidate) (sql : String) :
    c.finalText = .ok sql ↔ c.stage = .final ∧ c.text = sql := by
  unfold finalText isExecutable
  by_cases h : c.stage = .final
  · simp [h]
  · simp [h]

/-! ## From the first stage to the last -/

/-- A candidate has come to the last stage when every stage ahead of it has been accepted. -/
theorem stage_eq_final_iff (c : Candidate) (calls : List Call) :
    (c.attemptAll calls).stage = .final ↔ (c.accepted calls).map Call.stage = c.stage.ahead := by
  rw [← Stage.ahead_eq_nil_iff, ← stages_accepted c calls, List.self_eq_append_right]

/-- A candidate accepts nothing more exactly when it has come to the last stage. -/
theorem stage_eq_final_iff_closed (c : Candidate) : c.stage = .final ↔ ∀ calls, c.accepted calls = [] := by
  constructor
  · intro h calls
    have hstages := stages_accepted c calls
    rw [h, (Stage.ahead_eq_nil_iff .final).mpr rfl, List.append_eq_nil_iff, List.map_eq_nil_iff] at hstages
    exact hstages.1
  · intro h
    refine Decidable.byContradiction fun hstage => ?_
    -- The next stage is still ahead, and a call for it would be accepted.
    obtain ⟨next, hnext⟩ := Stage.exists_next hstage
    obtain ⟨-, -, -, haccepted⟩ | ⟨hrefused, -, -⟩ := attempt_cases c ⟨next, none⟩
    · exact List.cons_ne_nil _ _ (haccepted.symm.trans (h _))
    · rw [advance, if_pos hnext] at hrefused
      cases hrefused

/-- Whatever is asked of a new candidate, it accepts the four stages in order and each once, as far as the calls go.
A call that is refused changes nothing. The statement can be taken out exactly when all four have been accepted,
which is also exactly when nothing more is accepted; it is the last text that an accepted call gave, or else the
first text. -/
theorem accepted_in_order (normalized text : String) (calls : List Call) :
    let first := start normalized .normalized text
    let last := first.attemptAll calls
    let stages := (first.accepted calls).map Call.stage
    stages <+: [.validated, .policyApplied, .syntaxChecked, .final] ∧
    (∀ call, (last.advance call.stage call.text = .ok (first.attemptAll (calls ++ [call])) ∧
        first.accepted (calls ++ [call]) = first.accepted calls ++ [call]) ∨
      (last.advance call.stage call.text = .error (last.refusal call.stage) ∧
        first.attemptAll (calls ++ [call]) = last ∧ first.accepted (calls ++ [call]) = first.accepted calls)) ∧
    (∀ sql, last.finalText = .ok sql ↔
      stages = [.validated, .policyApplied, .syntaxChecked, .final] ∧
        sql = ((first.accepted calls).filterMap Call.text).getLast?.getD first.text) ∧
    (stages = [.validated, .policyApplied, .syntaxChecked, .final] ↔
      ∀ more, first.accepted (calls ++ more) = first.accepted calls) := by
  intro first last stages
  have hahead : first.stage.ahead = [.validated, .policyApplied, .syntaxChecked, .final] := rfl
  have hfinal : last.stage = .final ↔ stages = [.validated, .policyApplied, .syntaxChecked, .final] :=
    hahead ▸ stage_eq_final_iff first calls
  refine ⟨?_, fun call => ?_, fun sql => ?_, ?_⟩
  · rw [← hahead, ← stages_accepted first calls]
    exact List.prefix_append ..
  · have hbehind : first.attemptAll (calls ++ [call]) = last.attempt call := List.foldl_append ..
    rw [hbehind, accepted_append]
    obtain ⟨-, hadvance, -, haccepted⟩ | ⟨hadvance, hsame, haccepted⟩ := attempt_cases last call
    · exact .inl ⟨hadvance, by rw [haccepted]⟩
    · exact .inr ⟨hadvance, hsame, by rw [haccepted, List.append_nil]⟩
  · rw [finalText_eq_ok_iff, hfinal, text_attemptAll, eq_comm (b := sql)]
  · rw [← hfinal, stage_eq_final_iff_closed]
    exact forall_congr' fun more => by rw [accepted_append, List.append_right_eq_self]

example : ((start "SELECT 1" .normalized "").attemptAll
    [⟨.final, some "SELECT 2"⟩, ⟨.validated, none⟩, ⟨.validated, some "SELECT 3"⟩,
      ⟨.policyApplied, some ""⟩, ⟨.syntaxChecked, none⟩, ⟨.final, none⟩,
      ⟨.final, some "SELECT 4"⟩]).finalText = .ok "" := rfl

end Candidate

end TenderQuery.Query
