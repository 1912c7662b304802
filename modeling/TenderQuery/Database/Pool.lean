import TenderQuery.Fault
import TenderQuery.Query.Record

/-!
# The connection pool

A pool sends statements to a database engine. A fault of the database becomes an execution error that knows
its statement; any other fault passes as it is.

- `Pool.fetchAll` runs a statement, `Pool.ping` asks whether the database answers.
- Both also give the requests that were made.
-/
set_option autoImplicit false
namespace TenderQuery.Database
open Query (ResultRow)

/-- A database as seen through its connections. -/
structure Engine where
  connectFault : Option Fault := none
  run : String → Except Fault (List ResultRow)

inductive Request where
  | connect
  | statement (sql : String)
  deriving DecidableEq, Repr

/-- A fault with the statement that caused it, if the fault is about one. -/
structure StatementFault where
  fault : Fault
  sql : Option String
  deriving DecidableEq, Repr

namespace Engine

/-- A statement on a connection of its own. -/
def send (engine : Engine) (sql : String) : Except Fault (List ResultRow) × List Request :=
  match engine.connectFault with
  | some fault => (.error fault, [.connect])
  | none => (engine.run sql, [.connect, .statement sql])

def blame (sql : String) (fault : Fault) : StatementFault :=
  if fault.kind = .database then ⟨⟨.execution, fault.message⟩, some sql⟩ else ⟨fault, none⟩

def fetchAll (engine : Engine) (sql : String) :
    Except StatementFault (List ResultRow) × List Request :=
  let (result, asked) := engine.send sql
  (result.mapError (blame sql), asked)

def pingStatement : String := "SELECT 1"

def ping (engine : Engine) : Except Fault Bool × List Request :=
  let (result, asked) := engine.send pingStatement
  (match result with
    | .ok _ => .ok true
    | .error fault => if fault.kind = .database then .ok false else .error fault, asked)

end Engine

/-! ## Engine options -/

/-- The options of an engine; connections are tested before use unless that is settled otherwise. -/
def engineOptions (options : List (String × Json)) : List (String × Json) :=
  if (options.lookup "pool_pre_ping").isSome then options
  else options ++ [("pool_pre_ping", .bool true)]

end TenderQuery.Database
