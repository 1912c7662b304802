import TenderQuery.Prompt.Composer
import TenderQuery.Schema.Introspection

/-!
# Tables are described apart from each other

If the names of the tables can be had and tables fail with faults of the database only, the introspector finds a
descriptor for each name, in order, and each descriptor is made of its own table alone (`introspect_isolated`).

- `Introspector.failure?` is the fault that a table fails with, in its columns or in the query for its rows.
- `Introspector.descriptor` is what comes of a table: a failing table leaves its error and nothing else.
- A prompt shows the usable tables only, so it is the same without the failing ones and those without columns.
-/
set_option autoImplicit false
namespace TenderQuery.Schema

/-- Null, a truth value, a number or a text. -/
inductive IsPlain : Json → Prop where
  | null : IsPlain .null
  | bool (b : Bool) : IsPlain (.bool b)
  | number (n : Number) : IsPlain (.number n)
  | text (s : String) : IsPlain (.text s)

theorem isPlain_toScalar (cell : Data.Cell) : IsPlain cell.toScalar := by
  cases cell with
  | json value => cases value <;> constructor
  | decimal value => exact .number _
  | date value => exact .text _
  | dateTime date time => exact .text _
  | time value => exact .text _
  | uuid value => exact .text _
  | bytes kind value => exact .text _

namespace Introspector
variable (i : Introspector)

theorem isPlain_of_mem_sampleRow {columns : List String} {row : Data.Row} {member : String × Json}
    (h : member ∈ sampleRow columns row) : IsPlain member.2 := by
  obtain ⟨name, -, rfl⟩ := List.mem_map.mp h
  dsimp only
  split
  · exact isPlain_toScalar _
  · exact .null

/-! ## One table -/

/-- A database that fails with faults of its own only, and gives no more rows than it is asked for. -/
structure Answers (t : CatalogTable) : Prop where
  columns : ∀ fault, t.columns = .error fault → fault.kind = .database
  rows : ∀ fault, t.rows i.limit = .error fault → fault.kind = .database
  bounded : ∀ rows, t.rows i.limit = .ok rows → rows.length ≤ i.limit

/-- The columns that a table tells of. -/
def columnsOf (t : CatalogTable) : List CatalogColumn := t.columns.toOption.getD []

/-- A table without columns is not asked for rows, and no table is if no rows are wanted. -/
def asksFor (t : CatalogTable) : Bool := !((columnsOf t).isEmpty || i.limit = 0)

/-- The fault of the columns, or else that of the query for rows, if that is made. -/
def failure? (t : CatalogTable) : Option Fault :=
  match t.columns with
  | .error fault => some fault
  | .ok _ => if i.asksFor t then fault? (t.rows i.limit) else none

def rowsOf (t : CatalogTable) : List Data.Row := if i.asksFor t then (t.rows i.limit).toOption.getD [] else []

/-- What comes of a table. -/
def descriptor (t : CatalogTable) : Table :=
  match i.failure? t with
  | some fault => { name := t.name, error := some fault.message }
  | none =>
    { name := t.name
      columns := (columnsOf t).map columnOf
      rows := (i.rowsOf t).map (sampleRow ((columnsOf t).map (·.name))) }

theorem describe_eq (t : CatalogTable) :
    (i.describe t).1 =
      match i.failure? t with
      | some fault => .error fault
      | none => .ok (i.descriptor t) := by
  unfold descriptor failure? rowsOf asksFor columnsOf describe sample
  cases t.columns with
  | error fault => rfl
  | ok columns =>
    have hnames : (columns.map columnOf).map (·.name) = columns.map (·.name) := by
      rw [List.map_map]
      rfl
    have hempty : (columns.map (·.name)).isEmpty = columns.isEmpty := by cases columns <;> rfl
    simp only [Except.toOption, Option.getD_some, hnames, hempty]
    by_cases hasks : (columns.isEmpty || decide (i.limit = 0)) = true
    · simp only [hasks, if_true, Bool.not_true, Bool.false_eq_true, if_false]
      rfl
    · simp only [hasks, if_true, Bool.not_false, Bool.false_eq_true, if_false]
      cases t.rows i.limit <;> rfl

/-- A fault of the database is kept with the table. -/
theorem tableOf_describe {t : CatalogTable} (h : i.Answers t) : tableOf t (i.describe t).1 = .ok (i.descriptor t) := by
  rw [describe_eq]
  unfold descriptor
  cases hfailure : i.failure? t with
  | none => rfl
  | some fault =>
    have hkind : fault.kind = .database := by
      unfold failure? at hfailure
      cases hcolumns : t.columns with
      | error found =>
        rw [hcolumns] at hfailure
        cases hfailure
        exact h.columns _ hcolumns
      | ok columns =>
        rw [hcolumns] at hfailure
        dsimp only at hfailure
        split at hfailure
        · cases hrows : t.rows i.limit with
          | error found =>
            rw [hrows] at hfailure
            cases hfailure
            exact h.rows _ hrows
          | ok rows =>
            rw [hrows] at hfailure
            cases hfailure
        · cases hfailure
    exact if_pos hkind

theorem length_rowsOf_le {t : CatalogTable} (h : i.Answers t) : (i.rowsOf t).length ≤ i.limit := by
  unfold rowsOf
  split
  · cases hrows : t.rows i.limit with
    | error fault => exact Nat.zero_le _
    | ok rows => exact h.bounded rows hrows
  · exact Nat.zero_le _

/-! ## All tables -/

theorem describeAll_eq {tables : List CatalogTable} (h : ∀ t ∈ tables, i.Answers t) :
    (i.describeAll tables).1 = .ok (tables.map i.descriptor) := by
  induction tables with
  | nil => rfl
  | cons t tables ih =>
    rw [List.forall_mem_cons] at h
    unfold describeAll
    simp only [i.tableOf_describe h.1, ih h.2]
    rfl

theorem introspect_eq {catalog : Catalog} (hconnect : catalog.connectFault = none)
    (hnames : catalog.namesFault = none) (h : ∀ t ∈ catalog.tables, i.Answers t) :
    (i.introspect catalog).1 = .ok ⟨catalog.tables.map i.descriptor⟩ := by
  unfold introspect
  simp only [hconnect, hnames, i.describeAll_eq h]
  rfl

/-! ## Usable tables -/

/-- A table that does not fail and has columns. -/
def isDescribable (t : CatalogTable) : Bool := (i.failure? t).isNone && !(columnsOf t).isEmpty

theorem usable_descriptor (t : CatalogTable) : (i.descriptor t).usable = i.isDescribable t := by
  unfold descriptor isDescribable Table.usable
  cases i.failure? t with
  | some fault => rfl
  | none => cases columnsOf t <;> rfl

/-- The usable tables are found without the others. -/
theorem usableTables_filter (tables : List CatalogTable) :
    (⟨(tables.filter i.isDescribable).map i.descriptor⟩ : Snapshot).usableTables =
      (⟨tables.map i.descriptor⟩ : Snapshot).usableTables := by
  have husable : (Table.usable ∘ i.descriptor) = i.isDescribable := funext i.usable_descriptor
  unfold Snapshot.usableTables
  simp only [List.filter_map, husable, List.filter_filter, Bool.and_self]

/-- What a descriptor tells of a table: its error and nothing else, or its columns and some rows of plain values. -/
structure Describes (t : CatalogTable) (d : Table) : Prop where
  name : d.name = t.name
  failed : ∀ fault, i.failure? t = some fault → d.error = some fault.message ∧ d.columns = [] ∧ d.rows = []
  answered : i.failure? t = none → d.error = none ∧ d.columns = (columnsOf t).map columnOf
  rows : (d.rows.length : Int) ≤ min (max i.sampleRows 0) 5
  plain : ∀ row ∈ d.rows, ∀ member ∈ row, IsPlain member.2

theorem describes_descriptor {t : CatalogTable} (h : i.Answers t) : i.Describes t (i.descriptor t) := by
  have hlength := i.length_rowsOf_le h
  unfold descriptor limit at *
  cases hfailure : i.failure? t with
  | some fault =>
    refine ⟨rfl, fun found hfound => ?_, fun hnone => ?_, ?_, fun row hrow => by cases hrow⟩
    · rw [hfailure] at hfound
      cases hfound
      exact ⟨rfl, rfl, rfl⟩
    · rw [hfailure] at hnone
      cases hnone
    · simp only [List.length_nil]
      omega
  | none =>
    refine ⟨rfl, fun found hfound => ?_, fun _ => ⟨rfl, rfl⟩, ?_, fun row hrow member hmember => ?_⟩
    · rw [hfailure] at hfound
      cases hfound
    · simp only [List.length_map]
      omega
    · obtain ⟨row, -, rfl⟩ := List.mem_map.mp hrow
      exact isPlain_of_mem_sampleRow hmember

/-- The introspector finds a descriptor for each name, in order, which is made of the table of that name and of
nothing else. Tables that fail or have no columns do not show in a prompt: it is the same without them. -/
theorem introspect_isolated {catalog : Catalog} (hconnect : catalog.connectFault = none)
    (hnames : catalog.namesFault = none) (h : ∀ t ∈ catalog.tables, i.Answers t) :
    ∃ snapshot smaller,
      (i.introspect catalog).1 = .ok snapshot ∧
      (i.introspect { catalog with tables := catalog.tables.filter i.isDescribable }).1 = .ok smaller ∧
      snapshot.tables = catalog.tables.map i.descriptor ∧
      (∀ t ∈ catalog.tables, i.Describes t (i.descriptor t)) ∧
      ∀ (composer : Prompt.Composer) (question : String) (history : List Prompt.Turn),
        composer.compose question snapshot history = composer.compose question smaller history := by
  have hsmaller : ∀ t ∈ catalog.tables.filter i.isDescribable, i.Answers t :=
    fun t ht => h t (List.mem_filter.mp ht).1
  refine ⟨_, _, i.introspect_eq hconnect hnames h, i.introspect_eq hconnect hnames hsmaller, rfl,
    fun t ht => i.describes_descriptor (h t ht), fun composer question history => ?_⟩
  unfold Prompt.Composer.compose Prompt.Composer.schemaLines
  rw [usableTables_filter]

/-- A table that answers, one that does not tell of its columns, one that keeps its rows to itself, and one without
columns. -/
def mixedCatalog : Catalog where
  tables :=
    [⟨"open", .ok [⟨"Value", ⟨some "DECIMAL", .null, .null, .null⟩, true⟩],
        fun _ => .ok [[("Value", .decimal (.number false 185 (-1)))]]⟩,
      ⟨"secret", .error ⟨.database, "no permission"⟩, fun _ => .ok []⟩,
      ⟨"broken", .ok [⟨"Name", ⟨some "TEXT", .null, .null, .null⟩, true⟩],
        fun _ => .error ⟨.database, "bad page"⟩⟩,
      ⟨"bare", .ok [], fun _ => .ok []⟩]

theorem introspect_isolated_mixedCatalog :
    (∀ t ∈ mixedCatalog.tables, ({} : Introspector).Answers t) ∧
    ∃ snapshot smaller,
      (({} : Introspector).introspect mixedCatalog).1 = .ok snapshot ∧
      (({} : Introspector).introspect ⟨none, none, mixedCatalog.tables.take 1⟩).1 = .ok smaller ∧
      snapshot.tables.map (fun t => (t.name, t.error)) =
        [("open", none), ("secret", some "no permission"), ("broken", some "bad page"), ("bare", none)] ∧
      ∀ (composer : Prompt.Composer) (question : String) (history : List Prompt.Turn),
        composer.compose question snapshot history = composer.compose question smaller history := by
  have hanswers : ∀ t ∈ mixedCatalog.tables, ({} : Introspector).Answers t := by
    intro t ht
    simp only [mixedCatalog, List.mem_cons, List.not_mem_nil, or_false] at ht
    rcases ht with rfl | rfl | rfl | rfl <;> constructor <;> rintro _ ⟨⟩ <;> decide
  obtain ⟨snapshot, smaller, hsnapshot, hsmaller, htables, -, hprompts⟩ :=
    @introspect_isolated {} mixedCatalog rfl rfl hanswers
  exact ⟨hanswers, snapshot, smaller, hsnapshot, hsmaller, by rw [htables]; rfl, hprompts⟩

end Introspector

end TenderQuery.Schema
