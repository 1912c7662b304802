import Mathlib.Logic.Function.Iterate
import TenderQuery.Proofs.Sql.Filter

/-!
# The filter is there, and once

`Carries column s` spells out when a statement counts as filtered: a comparison of the column with 0 or NULL stands
in it, perhaps with a qualifier and a bracket before the name of the column, between characters that are no part of a
word. The search for the filter passes over the qualifier and the bracket, and still finds just these statements
(`isPresent_iff_carries`). An insertion makes any statement one of them and leaves these alone, so that no run of
insertions adds the filter twice (`inject_carries`).
-/
set_option autoImplicit false
namespace TenderQuery.Sql
open TenderQuery.Text

/-! ## What counts as the filter -/

/-- Nothing, or a name with brackets and a dot. -/
def IsQualifier (q : List Char) : Prop :=
  q = [] ∨ ∃ name, q = name ++ ['.'] ∧ name ≠ [] ∧ ∀ c ∈ name, isNameChar c = true

/-- A comparison of the column with 0 or NULL, with all that can belong to the name of the column. -/
def IsFilter (column piece : List Char) : Prop :=
  ∃ qualifier bracket comparison, piece = qualifier ++ (bracket ++ comparison) ∧ IsQualifier qualifier ∧
    (bracket = [] ∨ bracket = ['[']) ∧ IsComparison column comparison

/-- The filter stands in the text, and no word goes on at its ends. -/
def Carries (column s : List Char) : Prop :=
  ∃ before piece after, s = before ++ (piece ++ after) ∧ endsWord before = false ∧ IsFilter column piece ∧
    startsWord after = false

theorem IsComparison.isFilter {column piece : List Char} (h : IsComparison column piece) : IsFilter column piece :=
  ⟨[], [], piece, rfl, .inl rfl, .inl rfl, h⟩

/-- What can stand before the name of the column never ends in a word. -/
theorem endsWord_append_qualifier {before qualifier bracket : List Char} (hbefore : endsWord before = false)
    (hqualifier : IsQualifier qualifier) (hbracket : bracket = [] ∨ bracket = ['[']) :
    endsWord (before ++ (qualifier ++ bracket)) = false := by
  obtain rfl | rfl := hbracket
  · rw [List.append_nil]
    obtain rfl | ⟨name, rfl, -, -⟩ := hqualifier
    · rw [List.append_nil]
      exact hbefore
    · rw [← List.append_assoc, endsWord_concat]
      decide
  · rw [← List.append_assoc, endsWord_concat]
    decide

/-- The search looks for the comparison alone, and finds it where the whole filter stands. -/
theorem isPresent_iff_carries (policy : SoftDelete) (sql : String) :
    policy.isPresent sql = true ↔ Carries policy.column.toList sql.toList := by
  rw [isPresent_iff]
  constructor
  · rintro ⟨before, piece, after, heq, hbefore, hpiece, hafter⟩
    exact ⟨before, piece, after, heq, hbefore, hpiece.isFilter, hafter⟩
  · rintro ⟨before, piece, after, heq, hbefore, hpiece, hafter⟩
    obtain ⟨qualifier, bracket, comparison, rfl, hqualifier, hbracket, hcomparison⟩ := hpiece
    refine ⟨before ++ (qualifier ++ bracket), comparison, after, ?_, ?_, hcomparison, hafter⟩
    · rw [heq]
      simp only [List.append_assoc]
    · exact endsWord_append_qualifier hbefore hqualifier hbracket

/-! ## Inserting the filter -/

theorem inject_of_isPresent {policy : SoftDelete} {sql : String} (h : policy.isPresent sql = true) :
    policy.inject sql = sql := by
  unfold SoftDelete.inject
  rw [if_pos h]

theorem inject_of_not_isPresent {policy : SoftDelete} {sql : String} (h : ¬ policy.isPresent sql = true) :
    ∃ slot : Slot, slot.Splits sql.toList ∧ (policy.inject sql).toList =
      slot.before ++ (slot.inserted (policy.filterFor sql.toList) ++ slot.after) := by
  refine ⟨Slot.of sql.toList, splits_of sql.toList, ?_⟩
  unfold SoftDelete.inject
  rw [if_neg h, String.toList_ofList, Slot.fill_eq]

theorem inject_inject (policy : SoftDelete) (sql : String) :
    policy.inject (policy.inject sql) = policy.inject sql :=
  inject_of_isPresent (isPresent_inject policy sql)

theorem iterate_inject (policy : SoftDelete) (sql : String) (n : Nat) :
    policy.inject^[n + 1] sql = policy.inject sql := by
  induction n with
  | zero => rfl
  | succ n ih => rw [Function.iterate_succ_apply', ih, inject_inject]

/-- After an insertion the filter is there, for any column and any text, and every further insertion changes nothing.
The first one changes nothing exactly if the filter was there; else it adds one filter, at one place. -/
theorem inject_carries (policy : SoftDelete) (sql : String) :
    (policy.isPresent (policy.inject sql) = true ∧ Carries policy.column.toList (policy.inject sql).toList) ∧
    (∀ n, policy.inject^[n + 1] sql = policy.inject sql) ∧
    (policy.inject sql = sql ↔ Carries policy.column.toList sql.toList) ∧
    (policy.inject sql ≠ sql → ∃ slot : Slot, slot.Splits sql.toList ∧ (policy.inject sql).toList =
      slot.before ++ (slot.inserted (policy.filterFor sql.toList) ++ slot.after)) := by
  have hpresent := isPresent_inject policy sql
  have hcarries := (isPresent_iff_carries policy _).mp hpresent
  refine ⟨⟨hpresent, hcarries⟩, iterate_inject policy sql, ⟨fun heq => ?_, fun h => ?_⟩, fun hne => ?_⟩
  · rw [heq] at hcarries
    exact hcarries
  · exact inject_of_isPresent ((isPresent_iff_carries policy sql).mpr h)
  · exact inject_of_not_isPresent (mt inject_of_isPresent hne)

end TenderQuery.Sql
