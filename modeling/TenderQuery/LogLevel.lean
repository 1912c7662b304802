/-!
# Log levels

Levels of the events in the service log, from the least to the most severe.
-/
set_option autoImplicit false
namespace TenderQuery

inductive LogLevel where
  | debug
  | info
  | warning
  | error
  | critical
  deriving DecidableEq, Repr

namespace LogLevel

def label : LogLevel → String
  | debug => "debug"
  | info => "info"
  | warning => "warning"
  | error => "error"
  | critical => "critical"

def severity : LogLevel → Nat
  | debug => 10
  | info => 20
  | warning => 30
  | error => 40
  | critical => 50

/-- The level with a name; two levels have a second one. -/
def ofName? : String → Option LogLevel
  | "debug" => some debug
  | "info" => some info
  | "warn" | "warning" => some warning
  | "error" => some error
  | "fatal" | "critical" => some critical
  | _ => none

end LogLevel

end TenderQuery
