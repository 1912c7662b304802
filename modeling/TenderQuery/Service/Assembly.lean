import TenderQuery.Database.Pool
import TenderQuery.Model.ChatClient
import TenderQuery.Model.Demo
import TenderQuery.Query.Pipeline
import TenderQuery.Schema.Introspection
import TenderQuery.Service.Settings

/-!
# Putting the service together

- `Settings.assemble` chooses the parts that a service works with.
- `Assembly.serve` is the life of a service: the parts are there while it works, and however the work ends,
  the client of the model is closed and then the pool.
-/
set_option autoImplicit false
namespace TenderQuery.Service

/-- What answers prompts: canned answers or a client. -/
inductive ModelSource where
  | canned (responses : List (String × String))
  | client (client : Model.ChatClient)

/-- Where audit entries go: to the service log, in full or not, or to a file. -/
inductive AuditTarget where
  | log (verbose : Bool)
  | file (path : String)
  deriving DecidableEq, Repr

structure Assembly where
  databaseUrl : String
  engineOptions : List (String × Json)
  model : ModelSource
  audit : List AuditTarget
  introspector : Schema.Introspector
  config : Query.Config

namespace Settings

def modelSource (s : Settings) : ModelSource :=
  match s.llmProvider with
  | .mock => .canned Model.demoResponses
  | .openai => .client
      { apiKey := s.llmApiKey
        model := s.llmModel
        baseUrl := s.llmBaseUrl
        temperature := .real s.llmTemperature
        maxTokens := .int s.llmMaxTokens }

/-- A database in a file has no pool of a given size. -/
def poolOptions (s : Settings) : List (String × Json) :=
  if "sqlite".toList.isPrefixOf s.databaseUrl.toList then [] else [("pool_size", .int s.poolSize)]

def auditTargets (s : Settings) : List AuditTarget :=
  .log (!s.isProduction) ::
    (s.auditLogPath.toList.filter fun path => !path.isEmpty).map AuditTarget.file

def pipelineConfig (s : Settings) : Query.Config where
  composer := { historyWindow := s.historyWindow, promptSampleRows := s.promptSampleRows }
  temperature := .real s.llmTemperature
  maxTokens := .int s.llmMaxTokens
  degradeOnIntrospectionError := s.degradeOnIntrospectionError
  cacheTtl := some (.real s.schemaCacheTtlSeconds)

def assemble (s : Settings) : Assembly where
  databaseUrl := s.databaseUrl
  engineOptions := Database.engineOptions s.poolOptions
  model := s.modelSource
  audit := s.auditTargets
  introspector := ⟨s.dbSchema, s.sampleRows⟩
  config := s.pipelineConfig

end Settings

namespace Assembly

inductive Closed where
  | client
  | pool
  deriving DecidableEq, Repr

/-- What is closed at the end; canned answers need no closing. -/
def closing (a : Assembly) : List Closed :=
  match a.model with
  | .canned _ => [.pool]
  | .client _ => [.client, .pool]

/-- The result of the work with the parts, and what was closed after it. -/
def serve {α : Type} (a : Assembly) (work : Assembly → Except Fault α) : Except Fault α × List Closed :=
  (work a, a.closing)

end Assembly

end TenderQuery.Service
