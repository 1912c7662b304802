import TenderQuery.Proofs.Service.Visits
import TenderQuery.Proofs.Text.Trimming

/-!
# The question of a request

The blanks around a question are dropped when its request is read, so it is nowhere known as it was asked: answers,
audit entries and prompts hold the trimmed question. `question_trimmed` says so of every request that asks a question,
and that the trimmed question is the one that was asked exactly if no blank stands at its ends.
-/
set_option autoImplicit false
namespace TenderQuery.Service
open Query (Pipeline)
open Query.Pipeline (entries prompts)
open Text (trimString IsUnpadded)
open Validation

/-! ## Reading the question -/

theorem combine_eq_valid {α β : Type} {f : Checked (α → β)} {a : Checked α} {b : β}
    (h : f.combine a = .valid b) : ∃ g x, f = .valid g ∧ a = .valid x ∧ g x = b := by
  cases f with
  | valid g =>
    cases a with
    | valid x =>
      cases h
      exact ⟨g, x, rfl, rfl, rfl⟩
    | invalid issues => cases h
  | invalid issues =>
    cases a with
    | valid x => cases h
    | invalid more => cases h

theorem under_eq_valid {α : Type} {step : Step} {c : Checked α} {a : α} (h : c.under step = .valid a) :
    c = .valid a := by
  cases c with
  | valid found => exact h
  | invalid issues => cases h

theorem ofExcept_eq_valid {α : Type} {r : Except Defect α} {a : α} (h : Checked.ofExcept r = .valid a) :
    r = .ok a := by
  cases r with
  | ok found =>
    cases h
    rfl
  | error defect => cases h

/-- A question that is read is trimmed. -/
theorem readQuestion_text {q : String} {question : Option String}
    (h : AskRequest.readQuestion (.text q) = .ok question) : question = some (trimString q) := by
  unfold AskRequest.readQuestion readOptional readShortText at h
  dsimp only at h
  split at h
  · cases h
  · cases h
    rfl

theorem question_of_read {notObject : Defect} {j : Json} {q : String} {asked : AskRequest}
    (hquestion : j.get? "question" = some (.text q)) (h : AskRequest.read notObject j = .valid asked) :
    asked.question = some (trimString q) := by
  cases j with
  | object members =>
    have hfield : namedMember? ["question"] (.object members) = some ("question", .text q) := by
      unfold namedMember?
      rw [List.findSome?_cons, hquestion]
      rfl
    change ((((Checked.valid AskRequest.mk).combine _).combine _).combine _) = _ at h
    -- The question is read before the two other fields, which are taken off from the outside.
    obtain ⟨g, truth, hg, -, hasked⟩ := combine_eq_valid h
    obtain ⟨g', history, hg', -, hhistory⟩ := combine_eq_valid hg
    obtain ⟨g'', question, hmk, hread, hset⟩ := combine_eq_valid hg'
    cases hmk
    subst hset
    subst hhistory
    subst hasked
    unfold field at hread
    rw [hfield] at hread
    exact readQuestion_text (ofExcept_eq_valid (under_eq_valid hread))
  | null => cases hquestion
  | bool b => cases hquestion
  | number n => cases hquestion
  | text s => cases hquestion
  | list items => cases hquestion

/-- The question as it stands in the body of a request. -/
def Visit.sent? {σ : Type} (v : Visit σ) : Option String :=
  if v.request.Asks then
    ((Application.readBody v.request.body).toOption.bind (·.get? "question")).bind Json.text?
  else none

namespace Application
variable {σ : Type} {app : Application σ} {v : Visit σ} {q : String}

theorem text_eq_some {j : Json} (h : j.text? = some q) : j = .text q := by
  cases j with
  | text s => exact congrArg Json.text (Option.some.inj h)
  | null => cases h
  | bool b => cases h
  | number n => cases h
  | list items => cases h
  | object members => cases h

theorem readBody_of_sent (h : v.sent? = some q) :
    v.request.Asks ∧ ∃ j, readBody v.request.body = .ok j ∧ j.get? "question" = some (.text q) := by
  unfold Visit.sent? at h
  split at h
  · rename_i hasks
    obtain ⟨value, hvalue, htext⟩ := Option.bind_eq_some_iff.mp h
    obtain ⟨j, hj, hmember⟩ := Option.bind_eq_some_iff.mp hvalue
    cases hbody : readBody v.request.body with
    | error ending =>
      rw [hbody] at hj
      cases hj
    | ok found =>
      rw [hbody] at hj
      cases hj
      exact ⟨hasks, _, rfl, text_eq_some htext ▸ hmember⟩
  · cases h

/-- What a request asks is its question without the blanks around it. A request whose question cannot be asked gets
neither rows nor an error about the question. -/
theorem asked_of_sent (h : v.sent? = some q) :
    (∃ asked, v.asked? = some asked ∧ readAsked v.request.body = .ok asked ∧
      asked.question = some (trimString q)) ∨
      v.asked? = none ∧ ∃ issues, readAsked v.request.body = .error (.answered 422 (.issues issues)) := by
  obtain ⟨hasks, j, hbody, hmember⟩ := readBody_of_sent h
  have hread := readAsked_eq v.request.body
  rw [hbody] at hread
  unfold Visit.asked?
  rw [if_pos hasks]
  dsimp only at hread
  cases hchecked : (AskRequest.read .objectContent j).under (.key "body") with
  | valid asked =>
    rw [hchecked] at hread
    rw [hread]
    exact .inl ⟨asked, rfl, rfl, question_of_read hmember (under_eq_valid hchecked)⟩
  | invalid issues =>
    rw [hchecked] at hread
    rw [hread]
    exact .inr ⟨rfl, issues, rfl⟩

/-! ## Answers, entries and prompts -/

theorem getD_question_of_told {asked : AskRequest} (hquestion : asked.question = some (trimString q))
    {response : Response} (htold : Told asked response) {value : Json} (hvalue : response.content = .json value)
    (hstatus : response.status = 200 ∨ response.status = 400) : value.getD "question" = .text (trimString q) := by
  cases htold with
  | answered success question =>
    rw [hquestion] at question
    cases hvalue
    exact congrArg Json.text question
  | failed =>
    cases hvalue
    rw [hquestion]
    rfl
  | blank =>
    cases hvalue
    rw [hquestion]
    rfl
  | broken =>
    obtain hstatus | hstatus := hstatus
    · cases hstatus
    · cases hstatus

theorem getD_question_of_response (h : v.sent? = some q) {value : Json}
    (hvalue : (v.exchange app).response.content = .json value)
    (hstatus : (v.exchange app).response.status = 200 ∨ (v.exchange app).response.status = 400) :
    value.getD "question" = .text (trimString q) := by
  have hasks := (readBody_of_sent h).1
  obtain ⟨asked, -, hread, hquestion⟩ | ⟨-, issues, hread⟩ := asked_of_sent h
  · exact getD_question_of_told hquestion (told_handle hasks hread) hvalue hstatus
  · have hdispatch := dispatch_of_asks hasks app v.moment v.id v.state
    unfold handleAsk at hdispatch
    rw [hread] at hdispatch
    rw [(comes_of_dispatch hdispatch).response] at hvalue
    cases hvalue

theorem getD_question_of_entry (h : v.sent? = some q) {entry : Json}
    (hentry : entry ∈ entries (v.exchange app).events) :
    entry.getD "question" = .text (trimString q) ∧
      entry.getD "escaped_question" = .text (Prompt.escape (trimString q)) := by
  obtain ⟨asked, record, hasked, rfl, hheading⟩ := exists_record hentry
  obtain ⟨found, hfound, -, hquestion⟩ | ⟨hnone, -⟩ := asked_of_sent h
  · rw [hasked] at hfound
    cases hfound
    rw [hquestion] at hheading
    refine ⟨congrArg (fun heading : Query.Heading => Json.text heading.question) hheading, ?_⟩
    have hescaped := congrArg (fun heading : Query.Heading => Json.text heading.escapedQuestion) hheading
    exact hescaped.trans (congrArg (fun s => Json.text (Prompt.escape s)) (Text.trimString_trimString q))
  · rw [hasked] at hnone
    cases hnone

/-- The prompt is made of the trimmed question, escaped, and of a live snapshot or none. -/
theorem prompt_of_sent (h : v.sent? = some q) {request : Model.Request}
    (hrequest : request ∈ prompts (v.exchange app).events) :
    ∃ p asked, app.pipeline = some p ∧ v.asked? = some asked ∧
      (request.prompt = p.config.composer.composeStatic (Prompt.escape (trimString q)) asked.history ∨
        ∃ snapshot, request.prompt =
          p.config.composer.compose (Prompt.escape (trimString q)) snapshot asked.history) := by
  cases hanswer : v.answer? app with
  | none =>
    obtain ⟨response, hcomes⟩ := comes_of_no_answer hanswer
    rw [hcomes.events] at hrequest
    cases hrequest
  | some answer =>
    obtain ⟨asked, p, hasked, hp, rfl⟩ := asked_of_answer hanswer
    rw [(comes_of_answer hasked hanswer).events] at hrequest
    obtain ⟨found, hfound, -, hquestion⟩ | ⟨hnone, -⟩ := asked_of_sent h
    · rw [hasked] at hfound
      cases hfound
      have hprompt := Pipeline.prompts_ask hrequest
      have htext : (question v.id asked).text.getD "" = trimString q := by
        change asked.question.getD "" = _
        rw [hquestion]
        rfl
      rw [htext, Text.trimString_trimString] at hprompt
      exact ⟨p, asked, hp, hasked, hprompt⟩
    · rw [hasked] at hnone
      cases hnone

/-- For every request that sends a question, in any state: the answer to the question and the audit entries hold the
trimmed question, which is the one that was sent exactly if no blank stands at its ends, and the prompts and the
escaped question of the entries are made of the trimmed one. -/
theorem question_trimmed (app : Application σ) (v : Visit σ) {q : String} (h : v.sent? = some q) :
    (∀ value, (v.exchange app).response.content = .json value →
      (v.exchange app).response.status = 200 ∨ (v.exchange app).response.status = 400 →
      value.getD "question" = .text (trimString q) ∧ (value.getD "question" = .text q ↔ IsUnpadded q.toList)) ∧
    (∀ entry ∈ entries (v.exchange app).events,
      entry.getD "question" = .text (trimString q) ∧ (entry.getD "question" = .text q ↔ IsUnpadded q.toList) ∧
        entry.getD "escaped_question" = .text (Prompt.escape (trimString q))) ∧
    ∀ request ∈ prompts (v.exchange app).events,
      ∃ p asked, app.pipeline = some p ∧ v.asked? = some asked ∧
        (request.prompt = p.config.composer.composeStatic (Prompt.escape (trimString q)) asked.history ∨
          ∃ snapshot, request.prompt =
            p.config.composer.compose (Prompt.escape (trimString q)) snapshot asked.history) := by
  have hsame : Json.text (trimString q) = .text q ↔ IsUnpadded q.toList := by
    rw [Json.text.injEq, Text.trimString_eq_self_iff]
  refine ⟨fun value hvalue hstatus => ?_, fun entry hentry => ?_, fun request => prompt_of_sent h⟩
  · have hquestion := getD_question_of_response h hvalue hstatus
    rw [hquestion]
    exact ⟨rfl, hsame⟩
  · obtain ⟨hquestion, hescaped⟩ := getD_question_of_entry h hentry
    rw [hquestion]
    exact ⟨rfl, hsame, hescaped⟩

/-- A question with blanks around it, asked over HTTP. -/
def paddedRequest : Request where
  method := "POST"
  path := "/api/ai/ask"
  body := "\x7b\"question\": \" Which? \"\x7d".toUTF8.toList

def paddedVisit : Visit Unit := ⟨⟨"id", "t", .whole 1⟩, paddedRequest, ⟨(), ⟨none⟩, {}⟩⟩

theorem question_trimmed_padded :
    paddedVisit.sent? = some " Which? " ∧
      ∀ entry ∈ entries (paddedVisit.exchange ⟨some (Pipeline.stopping (.ok [])), none⟩).events,
        entry.getD "question" = .text "Which?" := by
  have hsent : paddedVisit.sent? = some " Which? " := by decide +kernel
  have htrimmed : trimString " Which? " = "Which?" := by decide
  obtain ⟨-, hentries, -⟩ := question_trimmed ⟨some (Pipeline.stopping (.ok [])), none⟩ paddedVisit hsent
  exact ⟨hsent, fun entry hentry => htrimmed ▸ (hentries entry hentry).1⟩

/-- The question is answered and audited, and neither shows it as it was sent. -/
theorem question_of_paddedVisit :
    (entries (paddedVisit.exchange ⟨some (Pipeline.stopping (.ok [])), none⟩).events).map
        (fun entry => (entry.getD "question").text?) = [some "Which?"] ∧
      paddedVisit.sent? = some " Which? " := by
  decide +kernel

end Application

end TenderQuery.Service
