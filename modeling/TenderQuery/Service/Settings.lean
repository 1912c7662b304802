import TenderQuery.Json.Reader
import TenderQuery.Service.Logging
import TenderQuery.Text.Case
import TenderQuery.Validation.Scalar

/-!
# Settings

Settings come from the environment, under the names of the fields behind `TENDER_SQL_` in any case, and
from values that are given directly and count more. Unknown names are ignored.

- `Settings.load` reads all fields and reports everything that is wrong with them, in the order of the
  fields. The list of origins is JSON in the environment; if that cannot be read there is no report.
-/
set_option autoImplicit false
namespace TenderQuery.Service
open Decimal (Binary64)
open Validation

inductive Provider where
  | openai
  | mock
  deriving DecidableEq, Repr

def Provider.label : Provider → String
  | openai => "openai"
  | mock => "mock"

inductive Environment where
  | development
  | staging
  | production
  deriving DecidableEq, Repr

def Environment.label : Environment → String
  | development => "development"
  | staging => "staging"
  | production => "production"

inductive LogFormat where
  | console
  | json
  deriving DecidableEq, Repr

def LogFormat.label : LogFormat → String
  | console => "console"
  | json => "json"

structure Settings where
  databaseUrl : String := "sqlite+aiosqlite:///./tender.db"
  dbSchema : Option String := none
  poolSize : Int := 10
  llmProvider : Provider := .openai
  llmApiKey : Option String := none
  llmBaseUrl : String := "https://api.openai.com/v1"
  llmModel : String := "gpt-4o-mini"
  llmTemperature : Binary64 := .ofDecimal false 2 (-1)
  llmMaxTokens : Int := 1000
  llmTimeoutSeconds : Binary64 := .ofInt 30
  schemaCacheTtlSeconds : Binary64 := .ofInt 300
  sampleRows : Int := 5
  promptSampleRows : Int := 2
  historyWindow : Int := 5
  degradeOnIntrospectionError : Bool := true
  auditLogPath : Option String := none
  environment : Environment := .development
  logLevel : String := "INFO"
  logFormat : LogFormat := .console
  tracingEnabled : Bool := true
  otlpEndpoint : Option String := none
  corsOrigins : List String := ["*"]
  deriving DecidableEq

namespace Settings

/-! ## Reading -/

def choices {α : Type} (label : α → String) (values : List α) : List (String × α) :=
  values.map fun a => (label a, a)

/-- A field under its name, with its default. -/
def setting {α : Type} (source : Json) (name : String) (default : α) (read : Reader α) : Checked α :=
  field [name] source (.valid default) fun j => .ofExcept (read j)

def atLeast (n : Int) : Reader Int := readWholeWithin { least := some (.whole n) }

def upTo (n : Int) : Reader Int := readWholeWithin { least := some (.whole 0), most := some (.whole n) }

def origins (source : Json) (default : List String) : Checked (List String) :=
  field ["cors_origins"] source (.valid default) (readList fun j => .ofExcept (readText j))

/-- Reads all fields from the members of an object. -/
def read (source : Json) : Checked Settings :=
  let d : Settings := {}
  let optionalText := fun name default => setting source name default (readOptional readText)
  let text := fun name default => setting source name default readText
  let truth := fun name default => setting source name default readTruth
  pure Settings.mk
    <*> text "database_url" d.databaseUrl
    <*> optionalText "db_schema" d.dbSchema
    <*> setting source "pool_size" d.poolSize (atLeast 1)
    <*> setting source "llm_provider" d.llmProvider (readChoice (choices Provider.label [.openai, .mock]))
    <*> optionalText "llm_api_key" d.llmApiKey
    <*> text "llm_base_url" d.llmBaseUrl
    <*> text "llm_model" d.llmModel
    <*> setting source "llm_temperature" d.llmTemperature
      (readRealWithin { least := some (.whole 0), most := some (.whole 2) })
    <*> setting source "llm_max_tokens" d.llmMaxTokens (atLeast 1)
    <*> setting source "llm_timeout_seconds" d.llmTimeoutSeconds
      (readRealWithin { above := some (.whole 0) })
    <*> setting source "schema_cache_ttl_seconds" d.schemaCacheTtlSeconds
      (readRealWithin { least := some (.whole 0) })
    <*> setting source "sample_rows" d.sampleRows (upTo 5)
    <*> setting source "prompt_sample_rows" d.promptSampleRows (upTo 2)
    <*> setting source "history_window" d.historyWindow (atLeast 0)
    <*> truth "degrade_on_introspection_error" d.degradeOnIntrospectionError
    <*> optionalText "audit_log_path" d.auditLogPath
    <*> setting source "environment" d.environment
      (readChoice (choices Environment.label [.development, .staging, .production]))
    <*> text "log_level" d.logLevel
    <*> setting source "log_format" d.logFormat (readChoice (choices LogFormat.label [.console, .json]))
    <*> truth "tracing_enabled" d.tracingEnabled
    <*> optionalText "otlp_endpoint" d.otlpEndpoint
    <*> origins source d.corsOrigins

/-! ## Sources -/

def fieldNames : List String :=
  [ "database_url", "db_schema", "pool_size", "llm_provider", "llm_api_key", "llm_base_url", "llm_model",
    "llm_temperature", "llm_max_tokens", "llm_timeout_seconds", "schema_cache_ttl_seconds", "sample_rows",
    "prompt_sample_rows", "history_window", "degrade_on_introspection_error", "audit_log_path",
    "environment", "log_level", "log_format", "tracing_enabled", "otlp_endpoint", "cors_origins" ]

/-- The name of a variable for a field, in lower case. -/
def variableName (name : String) : String := "tender_sql_" ++ name

/-- The value of a variable; of two that differ in case only the last one counts. -/
def valueOf? (environment : List (String × String)) (name : String) : Option String :=
  (environment.reverse.find? fun (n, _) => Text.lowerString n == variableName name).map (·.2)

/-- Why there are no settings. -/
inductive Problem where
  | unreadable
  | invalid (issues : List Issue)

/-- The value that the environment has for a field; a null in place of a list is none. -/
def fromEnvironment (environment : List (String × String)) (name : String) :
    Except Problem (Option Json) :=
  match valueOf? environment name with
  | none => .ok none
  | some text =>
    if name = "cors_origins" then
      match Json.read? text with
      | none => .error .unreadable
      | some .null => .ok none
      | some value => .ok (some value)
    else .ok (some (.text text))

/-- The values of all fields that are given, directly or in the environment. -/
def gather (environment : List (String × String)) (given : Json) : Except Problem Json := do
  let found ← fieldNames.mapM fun name => do
    let value ← fromEnvironment environment name
    return ((given.get? name).orElse fun _ => value).map fun value => (name, value)
  return .object (found.filterMap id)

def load (environment : List (String × String)) (given : Json) : Except Problem Settings := do
  match read (← gather environment given) with
  | .valid settings => return settings
  | .invalid issues => throw (.invalid issues)

/-! ## Views -/

def isProduction (s : Settings) : Bool := s.environment == .production

def toJson (s : Settings) : Json :=
  .object
    [ ("database_url", .text s.databaseUrl),
      ("db_schema", .optionalText s.dbSchema),
      ("pool_size", .int s.poolSize),
      ("llm_provider", .text s.llmProvider.label),
      ("llm_api_key", .optionalText s.llmApiKey),
      ("llm_base_url", .text s.llmBaseUrl),
      ("llm_model", .text s.llmModel),
      ("llm_temperature", .real s.llmTemperature),
      ("llm_max_tokens", .int s.llmMaxTokens),
      ("llm_timeout_seconds", .real s.llmTimeoutSeconds),
      ("schema_cache_ttl_seconds", .real s.schemaCacheTtlSeconds),
      ("sample_rows", .int s.sampleRows),
      ("prompt_sample_rows", .int s.promptSampleRows),
      ("history_window", .int s.historyWindow),
      ("degrade_on_introspection_error", .bool s.degradeOnIntrospectionError),
      ("audit_log_path", .optionalText s.auditLogPath),
      ("environment", .text s.environment.label),
      ("log_level", .text s.logLevel),
      ("log_format", .text s.logFormat.label),
      ("tracing_enabled", .bool s.tracingEnabled),
      ("otlp_endpoint", .optionalText s.otlpEndpoint),
      ("cors_origins", .list (s.corsOrigins.map .text)) ]

/-- Lines are JSON if the format says so, or else in production. -/
def logSetup (s : Settings) : LogSetup :=
  .ofOptions (some s.logLevel) (if s.logFormat = .json then some true else none) s.isProduction

end Settings

end TenderQuery.Service
