import TenderQuery.Query.Pipeline
import TenderQuery.Service.AskRequest
import TenderQuery.Service.Metrics
import TenderQuery.Json.Reader
import TenderQuery.Text.Encoding

/-!
# The HTTP application

The application answers questions, tells its health and shows its metrics.

- `Route` lists what can be asked for, with paths and methods.
- `Application.handle` serves one request. Every answer carries the identifier of its request and is
  counted, except for the general answer to a request that broke down.
- Metrics take in every question that the pipeline replied to, answered or not.
-/
set_option autoImplicit false
namespace TenderQuery.Service
open Query (Pipeline)
open Schema (Snapshot Cache)
open Validation

/-! ## Requests and responses -/

structure Request where
  method : String
  path : String
  requestId : Option String := none
  body : List UInt8 := []

/-- What a response holds. -/
inductive Content where
  | empty
  | json (value : Json)
  | issues (list : List Issue)
  | metrics (lines : List String)

/-- A response; `requestId` is its header. -/
structure Response where
  status : Nat
  content : Content
  requestId : Option String
  timed : Bool

/-- What the surroundings contribute to a request: an identifier in case it has none, the time, and how long
its processing took. -/
structure Moment where
  generatedId : String
  timestamp : String
  processingTime : Number

inductive Route where
  | ask
  | health
  | ready
  | live
  | metrics
  deriving DecidableEq, Repr

namespace Route

def path : Route → String
  | ask => "/api/ai/ask"
  | health => "/health"
  | ready => "/ready"
  | live => "/live"
  | metrics => "/metrics"

def methods : Route → List String
  | ask => ["POST"]
  | metrics => ["GET", "HEAD"]
  | _ => ["GET"]

def all : List Route := [ask, health, ready, live, metrics]

def ofPath? (path : String) : Option Route := all.find? fun route => route.path == path

/-- The path with its slashes at the end dropped, or with one if it has none. -/
def otherSpelling (path : String) : String :=
  let chars := path.toList
  if chars.getLast? == some '/' then String.ofList (chars.reverse.dropWhile (· == '/')).reverse
  else path ++ "/"

end Route

/-! ## The application -/

/-- An application; `ping` asks its database pool whether the database answers. -/
structure Application (σ : Type) where
  pipeline : Option (Pipeline σ)
  ping : Option (σ → Bool)

structure AppState (σ : Type) where
  world : σ
  cache : Cache Number Snapshot := {}
  metrics : Metrics := {}

/-- How the work on a request ended: with an answer, or it broke down. -/
inductive Ending where
  | answered (status : Nat) (content : Content)
  | broken

structure Handled (σ : Type) where
  ending : Ending
  events : List Query.Event := []
  state : AppState σ

structure Exchange (σ : Type) where
  response : Response
  events : List Query.Event
  state : AppState σ

namespace Application
variable {σ : Type}

def version : String := "0.1.0"

def detail (text : String) : Content := .json (.object [("detail", .text text)])

/-! ### Questions -/

def errorContent (id message : String) (question : Option String) : Content :=
  .json (.object
    [("error", .text message), ("question", .optionalText question), ("requestId", .text id)])

def answerContent (id : String) (time : Number) (reply : Query.Reply) : Content :=
  .json (.object
    [ ("question", .text reply.question),
      ("query", .optionalText reply.query),
      ("result", .list (reply.rows.map .object)),
      ("fallbackUsed", .bool reply.fallbackUsed),
      ("requestId", .text id),
      ("processingTimeMs", .number (time.roundToPlaces 2)) ])

mutual

/-- All numbers in a value are finite. -/
def isWritable : Json → Bool
  | .number (.real x) => x.isFinite
  | .list items => areWritable items
  | .object members => areMembersWritable members
  | _ => true

def areWritable : List Json → Bool
  | [] => true
  | v :: rest => isWritable v && areWritable rest

def areMembersWritable : List (String × Json) → Bool
  | [] => true
  | (_, v) :: rest => isWritable v && areMembersWritable rest

end

/-- A reply as an answer to the request; rows that JSON cannot hold break it. -/
def replyEnding (id : String) (time : Number) (reply : Query.Reply) : Ending :=
  if !reply.success then .answered 400 (errorContent id (reply.error.getD "") (some reply.question))
  else if reply.rows.all areMembersWritable then .answered 200 (answerContent id time reply)
  else .broken

/-- Only a question that is missing or blank is the fault of the request. -/
def faultEnding (id : String) (question : Option String) (fault : Fault) : Ending :=
  if fault.kind = .invalidQuestion then .answered 400 (errorContent id fault.message question)
  else .broken

def question (id : String) (asked : AskRequest) : Pipeline.Question where
  text := asked.question
  history := asked.history
  useIntrospection := asked.useIntrospection
  requestId := some id

def askPipeline (pipeline : Pipeline σ) (moment : Moment) (id : String) (asked : AskRequest)
    (s : AppState σ) : Handled σ :=
  let answer := pipeline.ask moment.timestamp moment.generatedId (question id asked) s.cache s.world
  let s := { s with cache := answer.cache, world := answer.world }
  match answer.result with
  | .error fault => ⟨faultEnding id asked.question fault, answer.events, s⟩
  | .ok reply =>
    let metrics := answer.record.toList.foldl Metrics.track s.metrics
    ⟨replyEnding id moment.processingTime reply, answer.events, { s with metrics := metrics }⟩

/-- The value in a request body, or the answer to a body that has none. -/
def readBody (body : List UInt8) : Except Ending Json :=
  let (encoding, bytes) := Text.Encoding.detect body
  if body.isEmpty then .error (.answered 422 (.issues [⟨[.key "body"], .missing⟩]))
  else match encoding.decode? bytes with
    | none => .error (.answered 400 (detail "There was an error parsing the body"))
    | some chars => match Json.readChars? chars with
      | none => .error (.answered 422 (.issues [⟨[.key "body"], .malformedJson⟩]))
      | some value => .ok value

def readAsked (body : List UInt8) : Except Ending AskRequest := do
  match (AskRequest.read .objectContent (← readBody body)).under (.key "body") with
  | .valid asked => return asked
  | .invalid issues => throw (.answered 422 (.issues issues))

def handleAsk (app : Application σ) (moment : Moment) (id : String) (body : List UInt8)
    (s : AppState σ) : Handled σ :=
  match readAsked body with
  | .error ending => ⟨ending, [], s⟩
  | .ok asked => match app.pipeline with
    | none => ⟨.broken, [], s⟩
    | some pipeline => askPipeline pipeline moment id asked s

/-! ### Health -/

def checks (list : List (String × Bool)) : Json := .object (list.map fun (name, ok) => (name, .bool ok))

def healthStatus (pipeline pool : Bool) : String :=
  if pipeline && pool then "healthy" else if pipeline then "degraded" else "unhealthy"

def health (app : Application σ) (moment : Moment) : Ending :=
  let pipeline := app.pipeline.isSome
  let pool := app.ping.isSome
  .answered 200 (.json (.object
    [ ("status", .text (healthStatus pipeline pool)),
      ("version", .text version),
      ("timestamp", .text moment.timestamp),
      ("checks", checks [("api", true), ("pipeline", pipeline), ("database_pool", pool)]) ]))

/-- Ready with a pipeline and a database that answers. -/
def ready (app : Application σ) (world : σ) : Ending :=
  let pipeline := app.pipeline.isSome
  let database := app.ping.any fun ping => ping world
  let ready := pipeline && database
  .answered (if ready then 200 else 503) (.json (.object
    [ ("ready", .bool ready),
      ("checks", checks
        [("pipeline", pipeline), ("database_pool", app.ping.isSome), ("database", database)]) ]))

def live : Ending := .answered 200 (.json (.object [("status", .text "ok")]))

/-! ### Any request -/

def serve (app : Application σ) (moment : Moment) (id : String) (request : Request) (s : AppState σ) :
    Route → Handled σ
  | .ask => app.handleAsk moment id request.body s
  | .health => ⟨app.health moment, [], s⟩
  | .ready => ⟨app.ready s.world, [], s⟩
  | .live => ⟨live, [], s⟩
  | .metrics => ⟨.answered 200 (.metrics s.metrics.lines), [], s⟩

/-- The answer for a path that is no route: a redirection if it differs from one only in slashes. -/
def unknownPath (path : String) : Ending :=
  if (Route.ofPath? (Route.otherSpelling path)).isSome then .answered 307 .empty
  else .answered 404 (detail "Not Found")

def dispatch (app : Application σ) (moment : Moment) (id : String) (request : Request)
    (s : AppState σ) : Handled σ :=
  match Route.ofPath? request.path with
  | none => ⟨unknownPath request.path, [], s⟩
  | some route =>
    if route.methods.contains request.method then app.serve moment id request s route
    else ⟨.answered 405 (detail "Method Not Allowed"), [], s⟩

/-- The general answer, which tells nothing of what went wrong. -/
def brokenContent (id : String) : Content :=
  .json (.object
    [ ("error", .text "InternalServerError"),
      ("message", .text "An unexpected error occurred"),
      ("request_id", .text id) ])

def count (request : Request) (status : Nat) (s : AppState σ) : AppState σ :=
  { s with metrics := s.metrics.trackServed ⟨request.method, request.path, status⟩ }

def handle (app : Application σ) (moment : Moment) (request : Request) (s : AppState σ) : Exchange σ :=
  let id := Pipeline.identify moment.generatedId request.requestId
  let handled := app.dispatch moment id request s
  match handled.ending with
  | .answered status content =>
    ⟨⟨status, content, some id, true⟩, handled.events, count request status handled.state⟩
  | .broken => ⟨⟨500, brokenContent id, none, false⟩, handled.events, handled.state⟩

/-- Serves requests one after another; each comes with what it came to. -/
def handleAll (app : Application σ) : List (Moment × Request) → AppState σ → List (Request × Exchange σ)
  | [], _ => []
  | (moment, request) :: rest, s =>
    let exchange := app.handle moment request s
    (request, exchange) :: app.handleAll rest exchange.state

end Application

end TenderQuery.Service
