import TenderQuery.Data.Cell
import TenderQuery.Fault
import TenderQuery.Schema.ColumnType
import TenderQuery.Schema.Table

/-!
# Introspection

A catalog tells what tables a database has and what is in them, or fails to. The introspector asks for the
names and then for the columns and a few rows of each table, on a connection of its own, so that a table
that the database refuses to describe does not hide the others.

- `Introspector.describe` describes one table and lists the requests that it makes.
- `Introspector.introspect` describes all tables in the order of the catalog. Only a list of names that
  cannot be had, or a fault that is none of the database, ends the work.
-/
set_option autoImplicit false
namespace TenderQuery.Schema
open Data (Row)

/-! ## Catalogs -/

structure CatalogColumn where
  name : String
  type : ColumnType
  nullable : Bool := true

/-- A table answers a query for its columns and one for at most so many of its rows. -/
structure CatalogTable where
  name : String
  columns : Except Fault (List CatalogColumn)
  rows : Nat → Except Fault (List Row)

structure Catalog where
  connectFault : Option Fault := none
  namesFault : Option Fault := none
  tables : List CatalogTable := []

/-- A request to the database. -/
inductive CatalogRequest where
  | connect
  | names (schema : Option String)
  | columns (table : String) (schema : Option String)
  | sample (table : String) (schema : Option String) (columns : List String) (limit : Nat)
  deriving DecidableEq, Repr

/-! ## The introspector -/

structure Introspector where
  schema : Option String := none
  sampleRows : Int := 5
  deriving DecidableEq, Repr

namespace Introspector

/-- The number of rows asked for, five at most. -/
def limit (i : Introspector) : Nat := min i.sampleRows.toNat 5

def columnOf (c : CatalogColumn) : Column := ⟨c.name, c.type.text, c.nullable⟩

/-- The values of the selected columns; one that the row lacks is null. -/
def sampleRow (columns : List String) (row : Row) : SampleRow :=
  columns.eraseDups.map fun name => (name, match row.lookup name with
    | some cell => cell.toScalar
    | none => .null)

/-- The rows that a table gives, all of them, and the requests made for them; without columns or a limit there is
nothing to ask. -/
def sample (i : Introspector) (t : CatalogTable) (columns : List String) :
    Except Fault (List SampleRow) × List CatalogRequest :=
  if columns.isEmpty || i.limit = 0 then (.ok [], [])
  else ((t.rows i.limit).map fun rows => rows.map (sampleRow columns),
    [.sample t.name i.schema columns i.limit])

def describe (i : Introspector) (t : CatalogTable) : Except Fault Table × List CatalogRequest :=
  let asked := [.connect, .columns t.name i.schema]
  match t.columns with
  | .error fault => (.error fault, asked)
  | .ok columns =>
    let columns := columns.map columnOf
    let (rows, more) := i.sample t (columns.map (·.name))
    (rows.map fun rows => { name := t.name, columns := columns, rows := rows }, asked ++ more)

/-- A fault of the database leaves a table without columns. -/
def tableOf (t : CatalogTable) (described : Except Fault Table) : Except Fault Table :=
  match described with
  | .ok table => .ok table
  | .error fault =>
    if fault.kind = .database then .ok { name := t.name, error := some fault.message }
    else .error fault

/-- Describes tables in turn. -/
def describeAll (i : Introspector) : List CatalogTable → Except Fault (List Table) × List CatalogRequest
  | [] => (.ok [], [])
  | t :: rest =>
    let (described, asked) := i.describe t
    match tableOf t described with
    | .error fault => (.error fault, asked)
    | .ok table =>
      let (tables, more) := describeAll i rest
      (tables.map fun tables => table :: tables, asked ++ more)

/-- The fault that is reported when the names of the tables cannot be had. -/
def namesFault (fault : Fault) : Fault :=
  if fault.kind = .database then
    ⟨.introspection, "Failed to retrieve user tables: " ++ fault.message⟩
  else fault

def introspect (i : Introspector) (catalog : Catalog) : Except Fault Snapshot × List CatalogRequest :=
  match catalog.connectFault with
  | some fault => (.error (namesFault fault), [.connect])
  | none =>
    let asked := [.connect, .names i.schema]
    match catalog.namesFault with
    | some fault => (.error (namesFault fault), asked)
    | none =>
      let (tables, more) := i.describeAll catalog.tables
      (tables.map fun tables => ⟨tables⟩, asked ++ more)

end Introspector

end TenderQuery.Schema
