import TenderQuery.Json.Reader
import TenderQuery.Model.Completion
import TenderQuery.Text.Blank
import TenderQuery.Text.Encoding

/-!
# A client for chat completions

One prompt is sent as one message of a chat, without retries.

- `ChatClient.request` is the request for a prompt.
- `ChatClient.readAnswer` turns what comes back into a completion. Transport errors, refusals, bodies that
  are no JSON and bodies without a choice mean that the model is unavailable. The content is trimmed.
- `ChatClient.complete` is the whole exchange, over any transport.
-/
set_option autoImplicit false
namespace TenderQuery.Model

structure ChatClient where
  apiKey : Option String
  model : String := "gpt-4o-mini"
  baseUrl : String := "https://api.openai.com/v1"
  temperature : Json := .real (.ofDecimal false 2 (-1))
  maxTokens : Json := .nat 1000

/-- A request with its authorization header, if any. -/
structure HttpRequest where
  url : String
  authorization : Option String
  body : Json

inductive HttpAnswer where
  | response (status : Nat) (body : List UInt8)
  | transport (message : String)

namespace ChatClient

def dropTrailingSlashes (url : String) : String :=
  String.ofList (url.toList.reverse.dropWhile (· == '/')).reverse

/-- The address without slashes at its end. -/
def address (client : ChatClient) : String := dropTrailingSlashes client.baseUrl

def authorization (client : ChatClient) : Option String :=
  match client.apiKey with
  | some key => if key.isEmpty then none else some ("Bearer " ++ key)
  | none => none

/-- A temperature is replaced if it is absent, a limit of tokens also if it is zero. -/
def payload (client : ChatClient) (asked : Request) : Json :=
  .object
    [ ("model", .text client.model),
      ("messages", .list [.object [("role", .text "user"), ("content", .text asked.prompt)]]),
      ("temperature", if asked.temperature.isNull then client.temperature else asked.temperature),
      ("max_tokens", if asked.maxTokens.isSomething then asked.maxTokens else client.maxTokens) ]

def request (client : ChatClient) (asked : Request) : HttpRequest where
  url := client.address ++ "/chat/completions"
  authorization := client.authorization
  body := client.payload asked

/-! ## Answers -/

def unavailable {α : Type} (message : String) : Except Fault α := .error ⟨.modelUnavailable, message⟩

def readBody? (body : List UInt8) : Option Json :=
  let (encoding, bytes) := Text.Encoding.detect body
  (encoding.decode? bytes).bind Json.readChars?

/-- The message of the first choice. -/
def message? (data : Json) : Option Json :=
  match data.get? "choices" with
  | some (.list (choice :: _)) => match choice.get? "message" with
    | some (.object members) => some (.object members)
    | _ => none
  | _ => none

/-- A value that is not null, empty, zero or false, if there is one. -/
def something? (value : Json) : Option Json := if value.isSomething then some value else none

def missingMethod {α : Type} (value : Json) (name : String) : Except Fault α :=
  .error ⟨.missingAttribute, "'" ++ value.typeName ++ "' object has no attribute '" ++ name ++ "'"⟩

/-- The number of tokens that the answer says it used. -/
def usedTokens (data : Json) : Except Fault Json :=
  match something? (data.getD "usage") with
  | none => .ok (.nat 0)
  | some (.object members) => .ok (((Json.object members).get? "total_tokens").getD (.nat 0))
  | some value => missingMethod value "get"

def trimmedContent (message : Json) : Except Fault String :=
  match something? (message.getD "content") with
  | none => .ok ""
  | some (.text s) => .ok (Text.trimString s)
  | some value => missingMethod value "strip"

def readData (client : ChatClient) (data : Json) : Except Fault Completion :=
  match message? data with
  | none => unavailable "Model response has no choices"
  | some message => do
    let tokens ← usedTokens data
    let content ← trimmedContent message
    return ⟨.text content, (data.get? "model").getD (.text client.model), tokens⟩

def readAnswer (client : ChatClient) (answer : HttpAnswer) : Except Fault Completion :=
  match answer with
  | .transport message => unavailable ("Model request failed: " ++ message)
  | .response status body =>
    if status < 200 || 300 ≤ status then
      unavailable ("Model endpoint returned HTTP " ++ toString status)
    else match readBody? body with
      | none => unavailable "Model endpoint returned invalid JSON"
      | some data => client.readData data

/-- Sends the request and reads what comes back; the transport works on a state of its own. -/
def complete {σ : Type} (client : ChatClient) (send : HttpRequest → σ → HttpAnswer × σ) (asked : Request)
    (world : σ) : Except Fault Completion × σ :=
  let (answer, world) := send (client.request asked) world
  (client.readAnswer answer, world)

end ChatClient

end TenderQuery.Model
