import TenderQuery.Proofs.Service.Visits

/-!
# The identifier of a request

The entry that a question leaves in the audit log bears the identifier of its request, and so does the header of
every response but those to requests whose work breaks down: `response_requestId_iff`. `Visit.Raises` lists the ways
in which it does. The general answer to such a request names the identifier in its body and not in the header.
-/
set_option autoImplicit false
namespace TenderQuery.Service
open Query (Pipeline)
open Query.Pipeline (entries identify)
open Application

/-- The work on a request breaks down: there is no pipeline to ask, a fault that is not the caller's is passed on, or
rows were found that JSON cannot hold. -/
inductive Visit.Raises {σ : Type} (app : Application σ) (v : Visit σ) : Prop where
  | noPipeline {asked : AskRequest} (asked : v.asked? = some asked) (pipeline : app.pipeline = none)
  | passedOn {answer : Pipeline.Answer σ} {fault : Fault} (reached : v.answer? app = some answer)
      (result : answer.result = .error fault) (kind : fault.kind ≠ .invalidQuestion)
  | unwritable {answer : Pipeline.Answer σ} {reply : Query.Reply} (reached : v.answer? app = some answer)
      (result : answer.result = .ok reply) (success : reply.success = true)
      (rows : reply.rows.all areMembersWritable = false)

namespace Application
variable {σ : Type} {app : Application σ} {v : Visit σ}

/-! ## Responses -/

theorem raises_iff {answer : Pipeline.Answer σ} (hanswer : v.answer? app = some answer) :
    v.Raises app ↔ (∃ fault, answer.result = .error fault ∧ fault.kind ≠ .invalidQuestion) ∨
      ∃ reply, answer.result = .ok reply ∧ reply.success = true ∧ reply.rows.all areMembersWritable = false := by
  constructor
  · intro h
    cases h with
    | noPipeline asked pipeline =>
      obtain ⟨-, p, -, hp, -⟩ := asked_of_answer hanswer
      rw [pipeline] at hp
      cases hp
    | passedOn reached result kind =>
      rw [hanswer] at reached
      cases reached
      exact .inl ⟨_, result, kind⟩
    | unwritable reached result success rows =>
      rw [hanswer] at reached
      cases reached
      exact .inr ⟨_, result, success, rows⟩
  · rintro (⟨fault, hresult, hkind⟩ | ⟨reply, hresult, hsuccess, hrows⟩)
    · exact .passedOn hanswer hresult hkind
    · exact .unwritable hanswer hresult hsuccess hrows

theorem not_raises_of_unasked (h : v.asked? = none) : ¬ v.Raises app := by
  have hanswer : v.answer? app = none := by
    unfold Visit.answer?
    rw [h]
    rfl
  intro hraises
  cases hraises with
  | noPipeline asked pipeline =>
    rw [h] at asked
    cases asked
  | passedOn reached result kind =>
    rw [hanswer] at reached
    cases reached
  | unwritable reached result success rows =>
    rw [hanswer] at reached
    cases reached

/-- A response to a request bears its identifier in the header, or it is the general one and the work broke down. -/
inductive Responds (app : Application σ) (v : Visit σ) : Response → Prop where
  | answered {status : Nat} {content : Content} (stands : ¬ v.Raises app) :
      Responds app v ⟨status, content, some v.id, true⟩
  | broken (raises : v.Raises app) : Responds app v ⟨500, brokenContent v.id, none, false⟩

theorem responds_endingOf {answer : Pipeline.Answer σ} (hanswer : v.answer? app = some answer) (asked : AskRequest) :
    Responds app v (respond v.id (v.endingOf asked answer.result)) := by
  have hraises := raises_iff hanswer
  unfold Visit.endingOf
  cases hresult : answer.result with
  | error fault =>
    dsimp only
    unfold faultEnding
    split
    · rename_i hkind
      refine .answered fun h => ?_
      obtain ⟨found, hfound, hne⟩ | ⟨reply, hreply, -⟩ := hraises.mp h
      · rw [hresult] at hfound
        cases hfound
        exact hne hkind
      · rw [hresult] at hreply
        cases hreply
    · rename_i hkind
      exact .broken (hraises.mpr (.inl ⟨fault, hresult, hkind⟩))
  | ok reply =>
    have hfound : v.Raises app → reply.success = true ∧ reply.rows.all areMembersWritable = false := by
      intro h
      obtain ⟨fault, hfault, -⟩ | ⟨found, hfound, hends⟩ := hraises.mp h
      · rw [hresult] at hfault
        cases hfault
      · rw [hresult] at hfound
        cases hfound
        exact hends
    dsimp only
    unfold replyEnding
    split
    · rename_i hsuccess
      rw [Bool.not_eq_true'] at hsuccess
      exact .answered fun h => Bool.false_ne_true (hsuccess.symm.trans (hfound h).1)
    · rename_i hsuccess
      rw [Bool.not_eq_true', Bool.not_eq_false] at hsuccess
      split
      · rename_i hrows
        exact .answered fun h => Bool.false_ne_true ((hfound h).2.symm.trans hrows)
      · rename_i hrows
        exact .broken (hraises.mpr (.inr ⟨reply, hresult, hsuccess, Bool.eq_false_iff.mpr hrows⟩))

theorem responds_exchange (app : Application σ) (v : Visit σ) : Responds app v (v.exchange app).response := by
  cases hasked : v.asked? with
  | none =>
    obtain ⟨status, content, hcomes⟩ := comes_of_unasked app hasked
    rw [hcomes.response]
    exact .answered (not_raises_of_unasked hasked)
  | some asked =>
    cases hpipeline : app.pipeline with
    | none =>
      rw [(comes_of_no_pipeline hasked hpipeline).response]
      exact .broken (.noPipeline hasked hpipeline)
    | some p =>
      have hanswer : v.answer? app = some (p.ask v.moment.timestamp v.moment.generatedId (question v.id asked)
          v.state.cache v.state.world) := by
        unfold Visit.answer?
        rw [hasked, hpipeline]
        rfl
      rw [(comes_of_answer hasked hanswer).response]
      exact responds_endingOf hanswer asked

theorem getD_requestId_of_mem {entry : Json} (h : entry ∈ entries (v.exchange app).events) :
    entry.getD "request_id" = .text v.id := by
  obtain ⟨asked, record, -, rfl, hheading⟩ := exists_record h
  exact congrArg (fun heading : Query.Heading => Json.optionalText heading.requestId) hheading

/-- Every response to a request bears the identifier of the request in its header, unless the work on the request
breaks down; a response to such a request bears none there. The identifier is the one that was sent, if one was, and
it is the one in the audit log. -/
theorem response_requestId_iff (app : Application σ) (calls : List (Moment × Request)) (s : AppState σ) :
    app.handleAll calls s = (app.visits calls s).map (fun v => (v.request, v.exchange app)) ∧
      ∀ v ∈ app.visits calls s,
        ((v.exchange app).response.requestId = some v.id ↔ ¬ v.Raises app) ∧
        (v.Raises app → (v.exchange app).response = ⟨500, brokenContent v.id, none, false⟩) ∧
        (∀ sent, v.request.requestId = some sent → sent ≠ "" → v.id = sent) ∧
        ∀ entry ∈ entries (v.exchange app).events, entry.getD "request_id" = .text v.id := by
  refine ⟨handleAll_eq app calls s, fun v _ => ⟨?_, ?_, ?_, fun entry hentry => getD_requestId_of_mem hentry⟩⟩
  · have hresponds := responds_exchange app v
    generalize (v.exchange app).response = response at hresponds
    cases hresponds with
    | answered stands => exact iff_of_true rfl stands
    | broken raises => exact iff_of_false (fun h => by cases h) (fun h => h raises)
  · intro hraises
    have hresponds := responds_exchange app v
    generalize (v.exchange app).response = response at hresponds
    cases hresponds with
    | answered stands => exact absurd hraises stands
    | broken raises => rfl
  · intro sent hsent hne
    unfold Visit.id identify
    rw [hsent]
    exact if_neg fun hempty => hne (String.isEmpty_iff.mp hempty)

/-- A pipeline without a model, whose database driver breaks down. -/
def exploding : Pipeline Unit where
  config := { rules := [⟨"any", .always, "SELECT 1"⟩] }
  collaborators :=
    { complete := fun _ world => (.error ⟨.modelUnavailable, "offline"⟩, world)
      fetchAll := fun _ world => (.error ⟨.runtime, "driver exploded"⟩, world)
      introspect := none
      now := fun world => (.whole 0, world)
      cacheNow := fun world => (.whole 0, world) }

theorem requestId_exploding :
    (handle ⟨some exploding, none⟩ ⟨"id", "t", .whole 1⟩ { whichRequest with requestId := some "trace-1" }
      ⟨(), ⟨none⟩, {}⟩).response.requestId = none := by
  decide +kernel

end Application

end TenderQuery.Service
