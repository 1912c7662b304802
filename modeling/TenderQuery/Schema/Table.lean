import TenderQuery.Json.Basic
import TenderQuery.Text.Case

/-!
# Tables

- A `Table` is described by its columns and a few sample rows, or by the error that kept it from being
  described. It is usable when it has columns and no error.
- A `Snapshot` lists the tables of a database in the order of discovery. `Snapshot.table?` finds a table
  by its name, without regard to case.
-/
set_option autoImplicit false
namespace TenderQuery.Schema

structure Column where
  name : String
  logicalType : String
  nullable : Bool := true
  deriving DecidableEq, Repr

abbrev SampleRow := List (String × Json)

structure Table where
  name : String
  columns : List Column := []
  rows : List SampleRow := []
  error : Option String := none

structure Snapshot where
  tables : List Table := []

def Table.usable (t : Table) : Bool := t.error.isNone && !t.columns.isEmpty

def Table.columnNames (t : Table) : List String := t.columns.map (·.name)

def Snapshot.usableTables (s : Snapshot) : List Table := s.tables.filter (·.usable)

def Snapshot.table? (s : Snapshot) (name : String) : Option Table :=
  let lowered := Text.lowerString name
  s.tables.find? fun t => Text.lowerString t.name == lowered

end TenderQuery.Schema
