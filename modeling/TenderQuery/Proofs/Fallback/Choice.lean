import TenderQuery.Proofs.Fallback.Agreement
import TenderQuery.Proofs.Sql.Presence

/-!
# What a looked up statement is made of

A looked up statement is sent unchecked, so that all rests on how it is made. It comes from the first rule that
holds of the question in lower case (`matching_default_iff`). The text of its template is all there is to it
(`eq_template_of_render`), but for the first year of the question, a number with four digits (`isFilled_of_render`).
`select_default` puts together what follows for every question: the statement passes both checks, and it carries the
filter if it reads a table that has one.
-/
set_option autoImplicit false
namespace TenderQuery.Fallback
open TenderQuery.Text TenderQuery.Sql

/-! ## The first rule that holds -/

/-- The rule is the first one whose condition holds. -/
structure IsFirst (rules : List Rule) (lowered : List Char) (rule : Rule) : Prop where
  holds : rule.condition.holds lowered = .ok true
  split : ∃ before after, rules = before ++ rule :: after ∧
    ∀ other ∈ before, other.condition.holds lowered = .ok false

section First
variable {rules : List Rule} {lowered : List Char} {rule : Rule}

theorem IsFirst.cons (h : IsFirst rules lowered rule) {first : Rule}
    (hfirst : first.condition.holds lowered = .ok false) : IsFirst (first :: rules) lowered rule := by
  obtain ⟨before, after, rfl, hbefore⟩ := h.split
  exact ⟨h.holds, first :: before, after, rfl, List.forall_mem_cons.mpr ⟨hfirst, hbefore⟩⟩

theorem firstHolding_eq_some_iff : firstHolding? lowered rules = .ok (some rule) ↔ IsFirst rules lowered rule := by
  constructor
  · intro h
    induction rules with
    | nil => cases h
    | cons first rest ih =>
      rw [firstHolding_cons] at h
      split at h
      · rename_i hholds
        cases h
        exact ⟨hholds, [], rest, rfl, List.forall_mem_nil _⟩
      · rename_i hholds
        exact (ih h).cons hholds
      · cases h
  · rintro ⟨hholds, before, after, rfl, hbefore⟩
    induction before with
    | nil =>
      rw [List.nil_append, firstHolding_cons, hholds]
    | cons first before ih =>
      rw [List.forall_mem_cons] at hbefore
      rw [List.cons_append, firstHolding_cons, hbefore.1]
      exact ih hbefore.2

theorem not_holds_of_firstHolding_none (h : firstHolding? lowered rules = .ok none) :
    ∀ rule ∈ rules, rule.condition.holds lowered = .ok false := by
  induction rules with
  | nil => exact List.forall_mem_nil _
  | cons first rest ih =>
    rw [firstHolding_cons] at h
    split at h
    · cases h
    · rename_i hholds
      exact List.forall_mem_cons.mpr ⟨hholds, ih h⟩
    · cases h

end First

theorem matching_of_isFirst {rules : List Rule} {question : String} {rule : Rule}
    (h : IsFirst rules (lower question.toList) rule) : matching rules question = .ok rule := by
  rw [matching_eq, firstHolding_eq_some_iff.mpr h]

/-- The last of the default rules holds of every question, so that the rule that is found does hold. -/
theorem matching_default_iff {question : String} {rule : Rule} :
    matching defaultRules question = .ok rule ↔ IsFirst defaultRules (lower question.toList) rule := by
  refine ⟨fun h => ?_, matching_of_isFirst⟩
  rw [matching_eq] at h
  split at h
  · rename_i hfound
    cases h
    exact firstHolding_eq_some_iff.mp hfound
  · rename_i hnone
    have hlast := not_holds_of_firstHolding_none hnone recentTenders (by simp [defaultRules])
    cases hlast
  · cases h

/-! ## The template and the year -/

/-- The statement is the template with the number in each of its fields, and there is one. -/
def IsFilled (template sql : String) (n : Nat) : Prop :=
  ∃ p q rest, (∀ piece ∈ p :: q :: rest, ∀ c ∈ piece, isBrace c = false) ∧
    template.toList = yearMark.intercalate (p :: q :: rest) ∧
    sql.toList = (Nat.toDigits 10 n).intercalate (p :: q :: rest)

section Rendered
variable {rule : Rule} (h : rule ∈ defaultRules) {s : List Char} {sql : String} (hsql : rule.render s = .ok sql)
include h hsql

theorem eq_template_of_render (hyear : ¬ rule.NamesYear) : sql = rule.template := by
  obtain ⟨p, rest, hpieces⟩ := exists_pieces_eq_cons rule.template.toList
  rw [namesYear_iff h] at hyear
  cases rest with
  | cons q rest => exact absurd ⟨p, q, rest, hpieces⟩ hyear
  | nil =>
    have htext := intercalate_pieces rule.template.toList
    rw [hpieces, List.intercalate_singleton] at htext
    rw [render_default h, hpieces, List.intercalate_singleton, htext, String.ofList_toList] at hsql
    exact (Except.ok.inj hsql).symm

theorem isFilled_of_render (hyear : rule.NamesYear) {n : Nat} (hn : year? s = some n) :
    IsFilled rule.template sql n := by
  obtain ⟨p, q, rest, hpieces⟩ := (namesYear_iff h).mp hyear
  refine ⟨p, q, rest, ?_, ?_, ?_⟩
  · rw [← hpieces]
    exact (plainTemplate_default rule h).braces
  · rw [← hpieces, intercalate_pieces]
  · rw [render_default h, hn, hpieces, yearText_some] at hsql
    rw [← Except.ok.inj hsql, String.toList_ofList]

end Rendered

/-! ## The filter -/

theorem notDeleted_toList : notDeleted.toList = ({} : SoftDelete).filterFor [] := by decide

/-- The template has the filter before any field for the year, or has no such field and reads no table with a flag. -/
theorem filtered_default : ∀ rule ∈ defaultRules,
    contains notDeleted.toList ((pieces rule.template.toList).headD []) = true ∨
      contains yearMark rule.template.toList = false ∧ contains "tenderTender".toList rule.template.toList = false ∧
        contains "tenderContact".toList rule.template.toList = false := by
  apply forall_default (P := fun _ template =>
    contains notDeleted.toList ((pieces template).headD []) = true ∨
      contains yearMark template = false ∧ contains "tenderTender".toList template = false ∧
        contains "tenderContact".toList template = false)
  decide +kernel

/-- What the first piece of a template holds, stands in its statements. -/
theorem infix_of_infix_head {rule : Rule} (h : rule ∈ defaultRules) {s part : List Char} {sql : String}
    (hsql : rule.render s = .ok sql) (hpart : part <:+: (pieces rule.template.toList).headD []) :
    part <:+: sql.toList := by
  rw [render_default h] at hsql
  obtain ⟨p, rest, hpieces⟩ := exists_pieces_eq_cons rule.template.toList
  rw [hpieces] at hsql hpart
  rw [← Except.ok.inj hsql, String.toList_ofList, intercalate_cons]
  exact hpart.trans (List.prefix_append _ _).isInfix

/-- The statement reads a table whose rows have a flag. -/
def ReadsFlagged (sql : String) : Prop :=
  containsString "tenderTender" sql = true ∨ containsString "tenderContact" sql = true

theorem containsString_notDeleted {rule : Rule} (h : rule ∈ defaultRules) {s : List Char} {sql : String}
    (hsql : rule.render s = .ok sql) (hreads : ReadsFlagged sql) : containsString notDeleted sql = true := by
  unfold ReadsFlagged at hreads
  unfold containsString at hreads ⊢
  obtain hfilter | ⟨hmark, htender, hcontact⟩ := filtered_default rule h
  · rw [contains_iff_isInfix] at hfilter ⊢
    exact infix_of_infix_head h hsql hfilter
  · have hyear : ¬ rule.NamesYear := by
      unfold Rule.NamesYear containsString
      rw [yearField_toList, hmark]
      exact Bool.false_ne_true
    rw [eq_template_of_render h hsql hyear, htender, hcontact] at hreads
    simp at hreads

/-! ## All questions -/

/-- For every question there is one rule, the first that holds of the question in lower case, and the statement that
is looked up is its template: unchanged, or with the first year of the question in lower case, a number from 1900 to
2099, in place of its fields. Nothing else of the question reaches the statement, so that questions with the same
rule and the same year have the same statement. It passes both checks. If it reads tenders or contacts then the
filter is in it, and it would be left alone.

A question that is missing counts as an empty one. -/
theorem select_default (question : Option String) :
    ∃ rule sql, IsFirst defaultRules (lower (question.getD "").toList) rule ∧
      select defaultRules (question.getD "") = .ok sql ∧
      (¬ rule.NamesYear ∧ sql = rule.template ∨ ∃ n, IsFirstYear (lower (question.getD "").toList) n ∧
        1900 ≤ n ∧ n ≤ 2099 ∧ IsFilled rule.template sql n) ∧
      (∀ other : String, IsFirst defaultRules (lower other.toList) rule →
        (rule.NamesYear → year? (lower other.toList) = year? (lower (question.getD "").toList)) →
        select defaultRules other = .ok sql) ∧
      isReadOnly sql = true ∧ isWellShaped sql = true ∧
      (ReadsFlagged sql → containsString notDeleted sql = true ∧ ({} : SoftDelete).inject sql = sql) := by
  generalize question.getD "" = asked
  obtain ⟨rule, hmatch⟩ := exists_matching_default asked
  have hmem := mem_of_matching hmatch
  obtain ⟨sql, hsql⟩ : ∃ sql, rule.render (lower asked.toList) = .ok sql := ⟨_, render_default hmem _⟩
  have hchecks := accepted_of_render (plainTemplate_default rule hmem) hsql
  refine ⟨rule, sql, matching_default_iff.mp hmatch, ?_, ?_, fun other hother hyears => ?_, hchecks.1, hchecks.2,
    fun hreads => ?_⟩
  · rw [select_eq hmatch]
    exact hsql
  · by_cases hyear : rule.NamesYear
    · obtain ⟨n, hn⟩ := Option.isSome_iff_exists.mp (year_lower_of_matching hmatch hyear)
      have hfirst := year_eq_some_iff.mp hn
      exact .inr ⟨n, hfirst, hfirst.bounds.1, hfirst.bounds.2, isFilled_of_render hmem hsql hyear hn⟩
    · exact .inl ⟨hyear, eq_template_of_render hmem hsql hyear⟩
  · rw [select_eq (matching_of_isFirst hother), ← hsql, render_eq_render_iff hmem]
    rintro ⟨hyear, hne⟩
    exact hne (hyears hyear)
  · have hfilter := containsString_notDeleted hmem hsql hreads
    refine ⟨hfilter, inject_of_isPresent (isPresent_of_filter (s := []) ?_)⟩
    rw [← notDeleted_toList]
    exact (contains_iff_isInfix _ _).mp hfilter

end TenderQuery.Fallback
