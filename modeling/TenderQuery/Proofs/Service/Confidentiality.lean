import TenderQuery.Proofs.Query.Confidentiality
import TenderQuery.Service.Application

/-!
# What callers are told

An application tells its callers nothing of what faults say: `texts_stay_inside`. Two applications over pipelines
that differ in the texts of faults give the same answers to questions, up to the identifier and the time that each
answer is marked with (`SameAnswer`), and an answer is one of four kinds (`Told`). A request that asks nothing
leaves cache and world as they are, so that the questions of a run come to the same whatever is requested between
them.
-/
set_option autoImplicit false
namespace TenderQuery.Service
open Query (Pipeline)
open Query.Pipeline (DiffersInTexts statements responses failureMessage blankQuestion)

/-- The request asks a question. -/
def Request.Asks (request : Request) : Prop := request.method = "POST" ∧ request.path = Route.ask.path

/-- The members of an answer that tell one request from another. -/
def markKeys : List String := ["requestId", "request_id", "processingTimeMs"]

/-- What a response holds, without the marks of its request. -/
def Content.unmarked : Content → Content
  | .json value => .json (markKeys.foldl Json.erase value)
  | content => content

/-- Two responses that say the same, up to the marks of their requests. -/
structure SameAnswer (r r' : Response) : Prop where
  status : r'.status = r.status
  content : r'.content.unmarked = r.content.unmarked
  identified : r'.requestId.isSome = r.requestId.isSome
  timed : r'.timed = r.timed

/-- Two endings that lead to answers that say the same. -/
inductive SameEnding : Ending → Ending → Prop where
  | answered (status : Nat) {content content' : Content} (same : content'.unmarked = content.unmarked) :
      SameEnding (.answered status content) (.answered status content')
  | broken : SameEnding .broken .broken

theorem SameEnding.refl (ending : Ending) : SameEnding ending ending := by
  cases ending with
  | answered status content => exact .answered status rfl
  | broken => exact .broken

/-- Two states that the next question finds alike; what was measured may differ. -/
structure SameState {σ τ : Type} (World : σ → τ → Prop) (s : AppState σ) (s' : AppState τ) : Prop where
  cache : s'.cache = s.cache
  world : World s.world s'.world

namespace Application
variable {σ τ : Type} {World : σ → τ → Prop}

/-! ## Answers and their marks -/

theorem unmarked_errorContent (id id' message : String) (question : Option String) :
    (errorContent id' message question).unmarked = (errorContent id message question).unmarked := rfl

theorem unmarked_answerContent (id id' : String) (time time' : Number) (reply : Query.Reply) :
    (answerContent id' time' reply).unmarked = (answerContent id time reply).unmarked := rfl

theorem unmarked_brokenContent (id id' : String) :
    (brokenContent id').unmarked = (brokenContent id).unmarked := rfl

theorem sameEnding_reply (id id' : String) (time time' : Number) (reply : Query.Reply) :
    SameEnding (replyEnding id time reply) (replyEnding id' time' reply) := by
  unfold replyEnding
  split
  · exact .answered 400 (unmarked_errorContent _ _ _ _)
  · split
    · exact .answered 200 (unmarked_answerContent _ _ _ _ _)
    · exact .broken

theorem sameEnding_fault (id id' : String) (question : Option String) {fault fault' : Fault}
    (hkind : fault'.kind = fault.kind) (hblank : fault.kind = .invalidQuestion → fault' = fault) :
    SameEnding (faultEnding id question fault) (faultEnding id' question fault') := by
  unfold faultEnding
  rw [hkind]
  split
  · rename_i hinvalid
    rw [hblank hinvalid]
    exact .answered 400 (unmarked_errorContent _ _ _ _)
  · exact .broken

/-! ## One question -/

section
variable {p : Pipeline σ} {q : Pipeline τ}

theorem alike_askPipeline (h : DiffersInTexts World p q) {s : AppState σ} {s' : AppState τ}
    (hs : SameState World s s') (moment moment' : Moment) (id id' : String) (asked : AskRequest) :
    SameEnding (askPipeline p moment id asked s).ending (askPipeline q moment' id' asked s').ending ∧
      statements (askPipeline q moment' id' asked s').events = statements (askPipeline p moment id asked s).events ∧
      SameState World (askPipeline p moment id asked s).state (askPipeline q moment' id' asked s').state := by
  obtain ⟨hseen, hleft⟩ := Query.Pipeline.alike_ask h hs.world moment.timestamp moment'.timestamp
    moment.generatedId moment'.generatedId (question id asked) (some id') s.cache
  have hquestion : question id' asked = { question id asked with requestId := some id' } := rfl
  unfold askPipeline
  rw [hs.cache, hquestion]
  have hresult := hseen.result
  have hfault := @Query.Pipeline.eq_blankQuestion_of_ask σ p moment.timestamp moment.generatedId
    (question id asked) s.cache s.world
  have hfault' := @Query.Pipeline.eq_blankQuestion_of_ask τ q moment'.timestamp moment'.generatedId
    { question id asked with requestId := some id' } s.cache s'.world
  dsimp only
  generalize p.ask moment.timestamp moment.generatedId (question id asked) s.cache s.world = a at *
  generalize q.ask moment'.timestamp moment'.generatedId { question id asked with requestId := some id' } s.cache
    s'.world = b at *
  obtain ⟨result, record, events, cache, world⟩ := a
  obtain ⟨result', record', events', cache', world'⟩ := b
  cases result with
  | ok reply =>
    cases result' with
    | ok reply' =>
      have hreply : reply' = reply := Except.ok.inj hresult
      subst hreply
      exact ⟨sameEnding_reply _ _ _ _ _, hseen.statements, hleft.cache, hleft.world⟩
    | error fault' => cases hresult
  | error fault =>
    cases result' with
    | ok reply' => cases hresult
    | error fault' =>
      have hkind : fault'.kind = fault.kind := Except.error.inj hresult
      refine ⟨sameEnding_fault _ _ _ hkind fun hinvalid => ?_, hseen.statements, hleft.cache, hleft.world⟩
      have hown : fault.kind.isOwn = true := by rw [hinvalid]; rfl
      rw [hfault rfl hown, hfault' rfl (hkind ▸ hown)]

/-- What a caller is told who asks a question: rows, that there is no question, or a generic text. -/
inductive Told (asked : AskRequest) : Response → Prop where
  | answered {id : String} {time : Number} {reply : Query.Reply} (success : reply.success = true)
      (question : reply.question = asked.question.getD "") :
      Told asked ⟨200, answerContent id time reply, some id, true⟩
  | failed {id : String} :
      Told asked ⟨400, errorContent id failureMessage (some (asked.question.getD "")), some id, true⟩
  | blank {id : String} : Told asked ⟨400, errorContent id blankQuestion.message asked.question, some id, true⟩
  | broken {id : String} : Told asked ⟨500, brokenContent id, none, false⟩

/-- The response that an ending leads to. -/
def respond (id : String) : Ending → Response
  | .answered status content => ⟨status, content, some id, true⟩
  | .broken => ⟨500, brokenContent id, none, false⟩

theorem told_askPipeline (p : Pipeline σ) (moment : Moment) (id : String) (asked : AskRequest) (s : AppState σ) :
    Told asked (respond id (askPipeline p moment id asked s).ending) := by
  have hreply := @Query.Pipeline.reply_ask σ p moment.timestamp moment.generatedId (question id asked) s.cache s.world
  have hfault := @Query.Pipeline.eq_blankQuestion_of_ask σ p moment.timestamp moment.generatedId
    (question id asked) s.cache s.world
  unfold askPipeline
  dsimp only
  generalize p.ask moment.timestamp moment.generatedId (question id asked) s.cache s.world = a at *
  obtain ⟨result, record, events, cache, world⟩ := a
  cases result with
  | ok reply =>
    obtain ⟨hquestion, hends⟩ := hreply rfl
    have htext : reply.question = asked.question.getD "" := hquestion
    unfold replyEnding
    dsimp only
    obtain hsuccess | ⟨hsuccess, herror⟩ := hends
    · simp only [hsuccess, Bool.not_true, Bool.false_eq_true, if_false]
      split
      · exact .answered hsuccess htext
      · exact .broken
    · simp only [hsuccess, herror, htext, Bool.not_false, if_true]
      exact .failed
  | error fault =>
    unfold faultEnding
    dsimp only
    split
    · rename_i hinvalid
      rw [hfault rfl (by rw [hinvalid]; rfl)]
      exact .blank
    · exact .broken

end

/-! ## Any request -/

theorem dispatch_of_asks {request : Request} (h : request.Asks) (app : Application σ) (moment : Moment) (id : String)
    (s : AppState σ) : app.dispatch moment id request s = app.handleAsk moment id request.body s := by
  have hroute : Route.ofPath? request.path = some .ask := by
    rw [h.2]
    decide
  unfold dispatch
  rw [hroute, h.1]
  rfl

/-- What asks nothing is answered, and only a question does anything outside. -/
theorem dispatch_of_not_asks {request : Request} (h : ¬request.Asks) (app : Application σ) (moment : Moment)
    (id : String) (s : AppState σ) :
    ∃ status content, app.dispatch moment id request s = ⟨.answered status content, [], s⟩ := by
  unfold dispatch
  cases hroute : Route.ofPath? request.path with
  | none =>
    unfold unknownPath
    dsimp only
    split
    · exact ⟨_, _, rfl⟩
    · exact ⟨_, _, rfl⟩
  | some route =>
    dsimp only
    split
    · rename_i hmethod
      cases route with
      | ask =>
        have hfound : Route.all.find? (fun route => route.path == request.path) = some .ask := hroute
        have hpath := List.find?_some hfound
        have hpost : request.method = "POST" := by simpa [Route.methods] using hmethod
        exact absurd ⟨hpost, (beq_iff_eq.mp hpath).symm⟩ h
      | health => exact ⟨_, _, rfl⟩
      | ready => exact ⟨_, _, rfl⟩
      | live => exact ⟨_, _, rfl⟩
      | metrics => exact ⟨_, _, rfl⟩
    · exact ⟨_, _, rfl⟩

theorem handle_of_dispatch {app : Application σ} {moment : Moment} {request : Request} {s : AppState σ}
    {handled : Handled σ}
    (h : app.dispatch moment (Pipeline.identify moment.generatedId request.requestId) request s = handled) :
    (app.handle moment request s).response =
        respond (Pipeline.identify moment.generatedId request.requestId) handled.ending ∧
      (app.handle moment request s).events = handled.events ∧
      (app.handle moment request s).state.cache = handled.state.cache ∧
      (app.handle moment request s).state.world = handled.state.world := by
  subst h
  unfold handle
  dsimp only
  split
  · rename_i hending
    rw [hending]
    exact ⟨rfl, rfl, rfl, rfl⟩
  · rename_i hending
    rw [hending]
    exact ⟨rfl, rfl, rfl, rfl⟩

theorem sameAnswer_respond (id id' : String) {ending ending' : Ending} (h : SameEnding ending ending') :
    SameAnswer (respond id ending) (respond id' ending') := by
  cases h with
  | answered status same => exact ⟨rfl, same, rfl, rfl⟩
  | broken => exact ⟨rfl, unmarked_brokenContent _ _, rfl, rfl⟩

/-- Two requests with what they came to: the same statements were sent and, if they ask a question, the same is
answered. -/
structure SameExchange (x : Request × Exchange σ) (y : Request × Exchange τ) : Prop where
  request : y.1 = x.1
  statements : statements y.2.events = statements x.2.events
  answer : x.1.Asks → SameAnswer x.2.response y.2.response

theorem alike_handleAsk {app : Application σ} {app' : Application τ}
    (h : Option.Rel (DiffersInTexts World) app.pipeline app'.pipeline) {s : AppState σ} {s' : AppState τ}
    (hs : SameState World s s') (moment moment' : Moment) (id id' : String) (body : List UInt8) :
    SameEnding (app.handleAsk moment id body s).ending (app'.handleAsk moment' id' body s').ending ∧
      statements (app'.handleAsk moment' id' body s').events = statements (app.handleAsk moment id body s).events ∧
      SameState World (app.handleAsk moment id body s).state (app'.handleAsk moment' id' body s').state := by
  unfold handleAsk
  cases readAsked body with
  | error ending => exact ⟨.refl ending, rfl, hs⟩
  | ok asked =>
    dsimp only
    generalize app.pipeline = pipeline at h
    generalize app'.pipeline = pipeline' at h
    cases h with
    | none => exact ⟨.broken, rfl, hs⟩
    | some hdiffers => exact alike_askPipeline hdiffers hs moment moment' id id' asked

theorem alike_handle {app : Application σ} {app' : Application τ}
    (h : Option.Rel (DiffersInTexts World) app.pipeline app'.pipeline) {s : AppState σ} {s' : AppState τ}
    (hs : SameState World s s') (moment moment' : Moment) (request : Request) :
    SameExchange (request, app.handle moment request s) (request, app'.handle moment' request s') ∧
      SameState World (app.handle moment request s).state (app'.handle moment' request s').state := by
  by_cases hasks : request.Asks
  · obtain ⟨hresponse, hevents, hcache, hworld⟩ := handle_of_dispatch (dispatch_of_asks hasks app moment _ s)
    obtain ⟨hresponse', hevents', hcache', hworld'⟩ := handle_of_dispatch (dispatch_of_asks hasks app' moment' _ s')
    obtain ⟨hending, hstatements, hstate⟩ := alike_handleAsk h hs moment moment'
      (Pipeline.identify moment.generatedId request.requestId)
      (Pipeline.identify moment'.generatedId request.requestId) request.body
    refine ⟨⟨rfl, ?_, fun _ => ?_⟩, ?_, ?_⟩
    · rw [hevents, hevents']
      exact hstatements
    · rw [hresponse, hresponse']
      exact sameAnswer_respond _ _ hending
    · rw [hcache, hcache']
      exact hstate.cache
    · rw [hworld, hworld']
      exact hstate.world
  · obtain ⟨_, _, hdispatch⟩ := dispatch_of_not_asks hasks app moment
      (Pipeline.identify moment.generatedId request.requestId) s
    obtain ⟨_, _, hdispatch'⟩ := dispatch_of_not_asks hasks app' moment'
      (Pipeline.identify moment'.generatedId request.requestId) s'
    obtain ⟨-, hevents, hcache, hworld⟩ := handle_of_dispatch hdispatch
    obtain ⟨-, hevents', hcache', hworld'⟩ := handle_of_dispatch hdispatch'
    refine ⟨⟨rfl, ?_, fun hask => absurd hask hasks⟩, ?_, ?_⟩
    · rw [hevents, hevents']
    · rw [hcache, hcache']
      exact hs.cache
    · rw [hworld, hworld']
      exact hs.world

/-! ## Requests one after another -/

theorem alike_handleAll {app : Application σ} {app' : Application τ}
    (h : Option.Rel (DiffersInTexts World) app.pipeline app'.pipeline) {calls calls' : List (Moment × Request)}
    (hcalls : calls'.map Prod.snd = calls.map Prod.snd) {s : AppState σ} {s' : AppState τ}
    (hs : SameState World s s') :
    List.Forall₂ SameExchange (app.handleAll calls s) (app'.handleAll calls' s') := by
  induction calls generalizing calls' s s' with
  | nil =>
    rw [List.map_nil, List.map_eq_nil_iff] at hcalls
    subst hcalls
    exact .nil
  | cons call calls ih =>
    cases calls' with
    | nil => cases hcalls
    | cons call' calls' =>
      obtain ⟨moment, request⟩ := call
      obtain ⟨moment', request'⟩ := call'
      obtain ⟨hrequest, hrest⟩ : request' = request ∧ _ := List.cons.inj hcalls
      subst hrequest
      obtain ⟨hexchange, hstate⟩ := alike_handle h hs moment moment' request'
      exact .cons hexchange (ih hrest hstate)

theorem told_handle {app : Application σ} {moment : Moment} {request : Request} {s : AppState σ}
    (hasks : request.Asks) {asked : AskRequest} (hasked : readAsked request.body = .ok asked) :
    Told asked (app.handle moment request s).response := by
  obtain ⟨hresponse, -⟩ := handle_of_dispatch (dispatch_of_asks hasks app moment _ s)
  rw [hresponse]
  unfold handleAsk
  rw [hasked]
  dsimp only
  cases app.pipeline with
  | none => exact .broken
  | some p => exact told_askPipeline p moment _ asked s

theorem told_handleAll (app : Application σ) (calls : List (Moment × Request)) (s : AppState σ) :
    ∀ x ∈ app.handleAll calls s, x.1.Asks →
      ∀ asked, readAsked x.1.body = .ok asked → Told asked x.2.response := by
  induction calls generalizing s with
  | nil =>
    intro x hx
    cases hx
  | cons call calls ih =>
    obtain ⟨moment, request⟩ := call
    intro x hx
    rw [handleAll] at hx
    obtain rfl | hx := List.mem_cons.mp hx
    · exact fun hasks asked hasked => told_handle hasks hasked
    · exact ih _ x hx

/-- If the collaborators of two pipelines do the same, except for the texts of their faults, so do the pipelines
and the applications over them, for any questions and any requests in between: the same statements are sent, every
question comes to the same reply, and so to the same response, or to a fault of the same kind, and every answer says
the same up to its marks. A caller is told rows, that there is no question, or a generic text. -/
theorem texts_stay_inside {p : Pipeline σ} {q : Pipeline τ} (h : DiffersInTexts World p q) {world : σ} {world' : τ}
    (hworld : World world world') (cache : Schema.Cache Number Schema.Snapshot) :
    (∀ askings askings' : List Pipeline.Asking, askings'.map (·.question) = askings.map (·.question) →
      List.Forall₂ Query.Pipeline.SeenAlike (p.askAll askings cache world) (q.askAll askings' cache world') ∧
      responses (q.askAll askings' cache world') = responses (p.askAll askings cache world)) ∧
    ∀ (ping : Option (σ → Bool)) (ping' : Option (τ → Bool)) (metrics metrics' : Metrics)
      (calls calls' : List (Moment × Request)), calls'.map Prod.snd = calls.map Prod.snd →
      List.Forall₂ SameExchange
        (handleAll ⟨some p, ping⟩ calls ⟨world, cache, metrics⟩)
        (handleAll ⟨some q, ping'⟩ calls' ⟨world', cache, metrics'⟩) ∧
      ∀ x ∈ handleAll ⟨some p, ping⟩ calls ⟨world, cache, metrics⟩, x.1.Asks →
        ∀ asked, readAsked x.1.body = .ok asked → Told asked x.2.response := by
  refine ⟨fun askings askings' hquestions => ?_, ?_⟩
  · have hseen := Query.Pipeline.seenAlike_askAll h hquestions cache hworld
    exact ⟨hseen, Query.Pipeline.responses_eq hseen⟩
  intro ping ping' metrics metrics' calls calls' hcalls
  exact ⟨alike_handleAll (.some h) hcalls ⟨rfl, hworld⟩, told_handleAll _ _ _⟩

/-- A pipeline without a model, whose database turns every statement down and says why. -/
def talkative : Pipeline Unit where
  config := { rules := [⟨"any", .always, "SELECT 1"⟩] }
  collaborators :=
    { complete := fun _ world => (.error ⟨.modelUnavailable, "no route to 10.0.0.3"⟩, world)
      fetchAll := fun _ world => (.error ⟨.execution, "login failed for user sa"⟩, world)
      introspect := none
      now := fun world => (.whole 0, world)
      cacheNow := fun world => (.whole 0, world) }

/-- The pipeline, which does not say why. -/
def taciturn : Pipeline Unit := talkative.rewording fun _ _ => ""

/-- A question, asked over HTTP. -/
def whichRequest : Request where
  method := "POST"
  path := "/api/ai/ask"
  body := "\x7b\"question\": \"Which?\"\x7d".toUTF8.toList

theorem texts_stay_inside_talkative :
    DiffersInTexts Eq talkative taciturn ∧
      (talkative.ask "t" "id" { text := some "Which?" } ⟨none⟩ ()).record.bind (·.error) =
        some "login failed for user sa" ∧
      (taciturn.ask "u" "other" { text := some "Which?" } ⟨none⟩ ()).record.bind (·.error) = some "" ∧
      List.Forall₂ Query.Pipeline.SeenAlike
        (talkative.askAll [⟨"t", "id", { text := some "Which?" }⟩] ⟨none⟩ ())
        (taciturn.askAll [⟨"u", "other", { text := some "Which?" }⟩] ⟨none⟩ ()) ∧
      responses (taciturn.askAll [⟨"u", "other", { text := some "Which?" }⟩] ⟨none⟩ ()) =
        responses (talkative.askAll [⟨"t", "id", { text := some "Which?" }⟩] ⟨none⟩ ()) ∧
      List.Forall₂ SameExchange
        (handleAll ⟨some talkative, none⟩ [(⟨"id", "t", .whole 1⟩, whichRequest)] ⟨(), ⟨none⟩, {}⟩)
        (handleAll ⟨some taciturn, none⟩ [(⟨"other", "u", .whole 2⟩, whichRequest)]
          ⟨(), ⟨none⟩, {}⟩) := by
  have hdiffers : DiffersInTexts Eq talkative taciturn := Query.Pipeline.differsInTexts_rewording _ talkative
  obtain ⟨hasked, hserved⟩ := texts_stay_inside hdiffers (rfl : () = ()) ⟨none⟩
  have hexchange := (hserved none none {} {} [(⟨"id", "t", .whole 1⟩, whichRequest)]
    [(⟨"other", "u", .whole 2⟩, whichRequest)] rfl).1
  obtain ⟨hseen, hresponses⟩ := hasked [⟨"t", "id", { text := some "Which?" }⟩]
    [⟨"u", "other", { text := some "Which?" }⟩] rfl
  exact ⟨hdiffers, by decide +kernel, by decide +kernel, hseen, hresponses, hexchange⟩

end Application

end TenderQuery.Service
