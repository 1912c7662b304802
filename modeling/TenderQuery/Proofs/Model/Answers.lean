import TenderQuery.Model.ChatClient
import TenderQuery.Proofs.Query.Course

/-!
# What a client makes of an answer

A client is expected to come to a completion or to say that the model is unavailable (`IsForeseen`). It does
so for every answer but the `IsMisshapen` ones: those that have a choice, but a content that is no text or an
account of tokens that is no object. For these it fails with a missing attribute, for which no pipeline has a
fallback (`complete_isForeseen_iff`).
-/
set_option autoImplicit false
namespace TenderQuery.Model

/-- What a model is expected to come to. -/
inductive IsForeseen : Except Fault Completion → Prop where
  | completed (completion : Completion) : IsForeseen (.ok completion)
  | unavailable (message : String) : IsForeseen (.error ⟨.modelUnavailable, message⟩)

namespace ChatClient

/-! ## Parts of an answer -/

/-- The value in the body of an answer that is no refusal. -/
def data? : HttpAnswer → Option Json
  | .transport _ => none
  | .response status body => if status < 200 || 300 ≤ status then none else readBody? body

/-- Something that tokens can be looked up in, or nothing. -/
def IsUsage (value : Json) : Prop := value.isSomething = true → ∃ members, value = .object members

/-- A text or nothing. -/
def IsContent (value : Json) : Prop := value.isSomething = true → ∃ s, value = .text s

/-- An answer with a choice, whose content is no text or whose account of tokens is no object. -/
def IsMisshapen (answer : HttpAnswer) : Prop :=
  ∃ data message, data? answer = some data ∧ message? data = some message ∧
    (¬ IsUsage (data.getD "usage") ∨ ¬ IsContent (message.getD "content"))

theorem missingMethod_eq {α : Type} (value : Json) (name : String) :
    ∃ message, (missingMethod value name : Except Fault α) = .error ⟨.missingAttribute, message⟩ :=
  ⟨_, rfl⟩

theorem usedTokens_of_isUsage {data : Json} (h : IsUsage (data.getD "usage")) :
    ∃ tokens, usedTokens data = .ok tokens := by
  unfold usedTokens something?
  by_cases hsome : (data.getD "usage").isSomething = true
  · obtain ⟨members, hmembers⟩ := h hsome
    rw [if_pos hsome, hmembers]
    exact ⟨_, rfl⟩
  · rw [if_neg hsome]
    exact ⟨_, rfl⟩

theorem usedTokens_of_not_isUsage {data : Json} (h : ¬ IsUsage (data.getD "usage")) :
    ∃ message, usedTokens data = .error ⟨.missingAttribute, message⟩ := by
  obtain ⟨hsome, hmembers⟩ := Classical.not_imp.mp h
  unfold usedTokens something?
  rw [if_pos hsome]
  split
  · rename_i hnone
    cases hnone
  · rename_i members hvalue
    exact absurd ⟨members, Option.some.inj hvalue⟩ hmembers
  · exact missingMethod_eq _ _

theorem trimmedContent_of_isContent {message : Json} (h : IsContent (message.getD "content")) :
    ∃ content, trimmedContent message = .ok content := by
  unfold trimmedContent something?
  by_cases hsome : (message.getD "content").isSomething = true
  · obtain ⟨s, hs⟩ := h hsome
    rw [if_pos hsome, hs]
    exact ⟨_, rfl⟩
  · rw [if_neg hsome]
    exact ⟨_, rfl⟩

theorem trimmedContent_of_not_isContent {message : Json} (h : ¬ IsContent (message.getD "content")) :
    ∃ text, trimmedContent message = .error ⟨.missingAttribute, text⟩ := by
  obtain ⟨hsome, htext⟩ := Classical.not_imp.mp h
  unfold trimmedContent something?
  rw [if_pos hsome]
  split
  · rename_i hnone
    cases hnone
  · rename_i s hvalue
    exact absurd ⟨s, Option.some.inj hvalue⟩ htext
  · exact missingMethod_eq _ _

/-! ## Whole answers -/

theorem readData_of_shaped {client : ChatClient} {data message : Json} (hmessage : message? data = some message)
    (husage : IsUsage (data.getD "usage")) (hcontent : IsContent (message.getD "content")) :
    ∃ completion, client.readData data = .ok completion := by
  obtain ⟨tokens, htokens⟩ := usedTokens_of_isUsage husage
  obtain ⟨content, hcontent⟩ := trimmedContent_of_isContent hcontent
  unfold readData
  rw [hmessage]
  simp only [htokens, hcontent]
  exact ⟨_, rfl⟩

theorem readData_of_misshapen {client : ChatClient} {data message : Json} (hmessage : message? data = some message)
    (h : ¬ IsUsage (data.getD "usage") ∨ ¬ IsContent (message.getD "content")) :
    ∃ text, client.readData data = .error ⟨.missingAttribute, text⟩ := by
  unfold readData
  rw [hmessage]
  by_cases husage : IsUsage (data.getD "usage")
  · obtain ⟨tokens, htokens⟩ := usedTokens_of_isUsage husage
    obtain ⟨text, htext⟩ := trimmedContent_of_not_isContent (h.resolve_left (not_not_intro husage))
    simp only [htokens, htext]
    exact ⟨_, rfl⟩
  · obtain ⟨text, htext⟩ := usedTokens_of_not_isUsage husage
    simp only [htext]
    exact ⟨_, rfl⟩

/-- What is read does not depend on how the value got into the body. -/
theorem readAnswer_of_data {answer : HttpAnswer} {data : Json} (h : data? answer = some data)
    (client : ChatClient) : client.readAnswer answer = client.readData data := by
  cases answer with
  | transport message => cases h
  | response status body =>
    have hdata : (if status < 200 || 300 ≤ status then none else readBody? body) = some data := h
    unfold readAnswer
    simp only
    split
    · rename_i hstatus
      rw [if_pos hstatus] at hdata
      cases hdata
    · rename_i hstatus
      rw [if_neg hstatus] at hdata
      rw [hdata]

theorem readAnswer_of_no_data {answer : HttpAnswer} (h : data? answer = none) (client : ChatClient) :
    ∃ message, client.readAnswer answer = .error ⟨.modelUnavailable, message⟩ := by
  cases answer with
  | transport message => exact ⟨_, rfl⟩
  | response status body =>
    have hdata : (if status < 200 || 300 ≤ status then none else readBody? body) = none := h
    unfold readAnswer
    simp only
    split
    · exact ⟨_, rfl⟩
    · rename_i hstatus
      rw [if_neg hstatus] at hdata
      rw [hdata]
      exact ⟨_, rfl⟩

theorem readAnswer_of_isMisshapen {answer : HttpAnswer} (h : IsMisshapen answer) (client : ChatClient) :
    ∃ message, client.readAnswer answer = .error ⟨.missingAttribute, message⟩ := by
  obtain ⟨data, message, hdata, hmessage, hparts⟩ := h
  rw [readAnswer_of_data hdata]
  exact readData_of_misshapen hmessage hparts

theorem isForeseen_of_not_isMisshapen {answer : HttpAnswer} (h : ¬ IsMisshapen answer) (client : ChatClient) :
    IsForeseen (client.readAnswer answer) := by
  cases hdata : data? answer with
  | none =>
    obtain ⟨message, hanswer⟩ := readAnswer_of_no_data hdata client
    rw [hanswer]
    exact .unavailable message
  | some data =>
    rw [readAnswer_of_data hdata]
    cases hmessage : message? data with
    | none =>
      unfold readData
      rw [hmessage]
      exact .unavailable _
    | some message =>
      have husage : IsUsage (data.getD "usage") := Classical.byContradiction fun hnot =>
        h ⟨data, message, hdata, hmessage, .inl hnot⟩
      have hcontent : IsContent (message.getD "content") := Classical.byContradiction fun hnot =>
        h ⟨data, message, hdata, hmessage, .inr hnot⟩
      obtain ⟨completion, hcompletion⟩ := @readData_of_shaped client _ _ hmessage husage hcontent
      rw [hcompletion]
      exact .completed completion

theorem isForeseen_readAnswer_iff (client : ChatClient) (answer : HttpAnswer) :
    IsForeseen (client.readAnswer answer) ↔ ¬ IsMisshapen answer := by
  refine ⟨fun hforeseen hmisshapen => ?_, fun h => isForeseen_of_not_isMisshapen h client⟩
  obtain ⟨message, hanswer⟩ := readAnswer_of_isMisshapen hmisshapen client
  rw [hanswer] at hforeseen
  cases hforeseen

/-! ## The client in a pipeline -/

section
open Query
variable {σ : Type}

/-- The pipeline with the client as its model. -/
def serving (client : ChatClient) (send : HttpRequest → σ → HttpAnswer × σ) (p : Pipeline σ) : Pipeline σ :=
  { p with collaborators :=
    { p.collaborators with
      complete := fun asked world =>
        ((client.complete send asked world).1.map (·.content), (client.complete send asked world).2) } }

/-- What the model step comes to if the model raises nothing that a fallback does not answer. -/
theorem exists_statement_of_attempt {p : Pipeline σ} {prompt : String} {run left : Run σ}
    {result : Except Fault (Except FallbackReason String)} (h : Pipeline.Attempt p prompt run (result, left))
    (hforeseen : ∀ fault, (p.collaborators.complete (p.requestFor prompt) run.world).1 = .error fault →
      fault.kind = .modelUnavailable) :
    ∃ statement, result = .ok statement := by
  cases h with
  | @crashed fault world answer unforeseen =>
    have hkind := hforeseen fault (by rw [answer])
    rw [hkind] at unforeseen
    cases unforeseen
  | raised answer foreseen => exact ⟨_, rfl⟩
  | refused answer judged refused => exact ⟨_, rfl⟩
  | accepted answer judged => exact ⟨_, rfl⟩

theorem crash_of_attempt {p : Pipeline σ} {prompt : String} {run left : Run σ}
    {result : Except Fault (Except FallbackReason String)} (h : Pipeline.Attempt p prompt run (result, left))
    {fault : Fault} (hanswer : (p.collaborators.complete (p.requestFor prompt) run.world).1 = .error fault)
    (hkind : fault.kind = .missingAttribute) : result = .error fault := by
  have hfault : ∀ {found : Fault} {world : σ},
      p.collaborators.complete (p.requestFor prompt) run.world = (.error found, world) → found = fault := by
    intro found world answer
    rw [answer] at hanswer
    exact Except.error.inj hanswer
  cases h with
  | crashed answer unforeseen => rw [hfault answer]
  | raised answer foreseen =>
    rw [hfault answer, hkind] at foreseen
    cases foreseen
  | refused answer judged refused =>
    rw [answer] at hanswer
    cases hanswer
  | accepted answer judged =>
    rw [answer] at hanswer
    cases hanswer

end

/-- The client comes to a completion or says that the model is unavailable, unless the answer is misshapen;
then it fails with a missing attribute. In a pipeline the model step accordingly gives a statement or a reason
for a fallback, and for a misshapen answer it gives neither. -/
theorem complete_isForeseen_iff {σ : Type} (client : ChatClient) (send : HttpRequest → σ → HttpAnswer × σ)
    (asked : Request) (world : σ) :
    (IsForeseen (client.complete send asked world).1 ↔ ¬ IsMisshapen (send (client.request asked) world).1) ∧
      (IsMisshapen (send (client.request asked) world).1 →
        ∃ message, (client.complete send asked world).1 = .error ⟨.missingAttribute, message⟩) ∧
      ∀ (p : Query.Pipeline σ) (prompt : String) (run : Query.Run σ),
        (∃ statement, (Query.Step.exec ((client.serving send p).modelStatement prompt) run).1 = .ok statement) ↔
          ¬ IsMisshapen (send (client.request (p.requestFor prompt)) run.world).1 := by
  refine ⟨isForeseen_readAnswer_iff client _, fun h => readAnswer_of_isMisshapen h client, ?_⟩
  intro p prompt run
  have hattempt := Query.Pipeline.attempt_modelStatement (client.serving send p) prompt run
  generalize Query.Step.exec ((client.serving send p).modelStatement prompt) run = outcome at hattempt ⊢
  obtain ⟨result, left⟩ := outcome
  have hcomplete : ((client.serving send p).collaborators.complete
      ((client.serving send p).requestFor prompt) run.world).1 =
        (client.readAnswer (send (client.request (p.requestFor prompt)) run.world).1).map (·.content) := rfl
  constructor
  · rintro ⟨statement, rfl⟩ hmisshapen
    obtain ⟨message, hanswer⟩ := readAnswer_of_isMisshapen hmisshapen client
    rw [hanswer] at hcomplete
    exact nomatch crash_of_attempt hattempt hcomplete rfl
  · intro hshaped
    refine exists_statement_of_attempt hattempt fun fault hfault => ?_
    have hforeseen := isForeseen_of_not_isMisshapen hshaped client
    rw [hcomplete] at hfault
    generalize client.readAnswer (send (client.request (p.requestFor prompt)) run.world).1 = answer
      at hforeseen hfault
    cases hforeseen with
    | completed completion => cases hfault
    | unavailable message =>
      cases hfault
      rfl

theorem not_isForeseen_of_fault {result : Except Fault Completion} {fault : Fault}
    (h : fault? result = some fault) (hkind : fault.kind ≠ .modelUnavailable) : ¬ IsForeseen result := by
  intro hforeseen
  cases hforeseen with
  | completed completion => cases h
  | unavailable message =>
    cases h
    exact hkind rfl

/-- An answer whose content is a number. -/
def numberedContent : HttpAnswer :=
  .response 200
    ("\x7b\"choices\": [\x7b\"message\": \x7b\"content\": 5\x7d\x7d]\x7d".toList.map fun c => c.toNat.toUInt8)

/-- A content that is no text makes the client fail in a way that nobody answers. -/
theorem not_isForeseen_numberedContent :
    ¬ IsForeseen (({ apiKey := some "k" } : ChatClient).complete (fun _ world => (numberedContent, world))
      ⟨"p", .null, .null⟩ ()).1 := by
  have hfault : fault? (({ apiKey := some "k" } : ChatClient).complete
      (fun _ world => (numberedContent, world)) ⟨"p", .null, .null⟩ ()).1 =
        some ⟨.missingAttribute, "'int' object has no attribute 'strip'"⟩ := by decide +kernel
  exact not_isForeseen_of_fault hfault (by decide)

end ChatClient

end TenderQuery.Model
