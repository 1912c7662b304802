import TenderQuery.Json.Basic
import TenderQuery.LogLevel
import TenderQuery.Text.Case

/-!
# The service log

All loggers write to one stream. A logger lets through what is at least as severe as its threshold: that of
the root, or for the quiet loggers and those below them, warnings.

- `LogSetup.ofOptions` chooses the threshold of the root and between JSON and console lines.
- `LogSetup.admits` says whether a call leaves a line, and `LogCall.line` which JSON line: fields of the
  context, which fields of the call override, then the event, its level and its logger.
-/
set_option autoImplicit false
namespace TenderQuery.Service

/-- Without a threshold everything is let through. -/
inductive Threshold where
  | everything
  | atLeast (level : LogLevel)
  deriving DecidableEq, Repr

namespace Threshold

def label : Threshold → String
  | everything => "NOTSET"
  | atLeast level => Text.upperString level.label

def admits : Threshold → LogLevel → Bool
  | everything, _ => true
  | atLeast least, level => least.severity ≤ level.severity

/-- The names of thresholds. -/
def names : List (String × Threshold) :=
  [ ("NOTSET", everything), ("DEBUG", atLeast .debug), ("INFO", atLeast .info),
    ("WARN", atLeast .warning), ("WARNING", atLeast .warning), ("ERROR", atLeast .error),
    ("FATAL", atLeast .critical), ("CRITICAL", atLeast .critical) ]

/-- The threshold with a name in any case; information for any other name or none. -/
def ofName (name : Option String) : Threshold :=
  (names.lookup (Text.upperString (name.getD ""))).getD (atLeast .info)

end Threshold

/-- How the service logs: JSON lines or lines for a console. -/
structure LogSetup where
  threshold : Threshold
  json : Bool
  deriving DecidableEq, Repr

namespace LogSetup

/-- In production lines are JSON unless that is settled otherwise. -/
def ofOptions (level : Option String) (json : Option Bool) (production : Bool) : LogSetup where
  threshold := .ofName level
  json := json.getD production

/-- Loggers that only warn. -/
def quietLoggers : List String := ["uvicorn.access", "httpx", "sqlalchemy.engine", "aiosqlite"]

def quietThreshold : Threshold := .atLeast .warning

/-- A logger or one below it. -/
def isBelow (parent logger : String) : Bool :=
  logger == parent || (parent ++ ".").toList.isPrefixOf logger.toList

def thresholdOf (setup : LogSetup) (logger : String) : Threshold :=
  if quietLoggers.any fun quiet => isBelow quiet logger then quietThreshold else setup.threshold

def admits (setup : LogSetup) (logger : String) (level : LogLevel) : Bool :=
  (setup.thresholdOf logger).admits level

end LogSetup

/-- Something to be logged. -/
structure LogCall where
  logger : String
  level : LogLevel
  event : Json
  fields : List (String × Json) := []

/-- The JSON line of a call in a context of bound fields. -/
def LogCall.line (call : LogCall) (bound : List (String × Json)) : Json :=
  .object (Json.ofPairs (bound ++ call.fields ++
    [("event", call.event), ("level", .text call.level.label), ("logger", .text call.logger)]))

/-- What happens to a log: fields are bound to the context or dropped from it, and calls are made. -/
inductive LogAction where
  | bind (fields : List (String × Json))
  | clear
  | log (call : LogCall)

structure LogState where
  bound : List (String × Json) := []
  lines : List Json := []

def LogSetup.act (setup : LogSetup) (s : LogState) : LogAction → LogState
  | .bind fields => { s with bound := Json.ofPairs (s.bound ++ fields) }
  | .clear => { s with bound := [] }
  | .log call =>
    if setup.admits call.logger call.level then { s with lines := s.lines ++ [call.line s.bound] }
    else s

/-- The state of the log after a number of actions. -/
def LogSetup.run (setup : LogSetup) (actions : List LogAction) : LogState := actions.foldl setup.act {}

end TenderQuery.Service
