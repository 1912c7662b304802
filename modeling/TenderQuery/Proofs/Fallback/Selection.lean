import TenderQuery.Fallback.Rule

/-!
# The selection of a rule

A fallback statement is missing for one of two reasons: while the rules are tried the condition of one of
them fails, or the template of the rule that was found cannot be filled.
-/
set_option autoImplicit false
namespace TenderQuery.Fallback
open TenderQuery.Text

/-- A rule fails on a question: its condition, when the rules are tried, or its template, once it was found. -/
def RuleFails (rules : List Rule) (question : String) : Prop :=
  ∃ rule ∈ rules, ∃ fault,
    (matching rules question = .error fault ∧ rule.condition.holds (lower question.toList) = .error fault) ∨
      (matching rules question = .ok rule ∧ rule.render question.toList = .error fault)

theorem firstHolding_cons (lowered : List Char) (rule : Rule) (rest : List Rule) :
    firstHolding? lowered (rule :: rest) =
      match rule.condition.holds lowered with
      | .ok true => .ok (some rule)
      | .ok false => firstHolding? lowered rest
      | .error fault => .error fault := by
  rw [firstHolding?]
  cases rule.condition.holds lowered with
  | error fault => rfl
  | ok holds => cases holds <;> rfl

theorem mem_of_firstHolding {lowered : List Char} {rules : List Rule} {rule : Rule}
    (h : firstHolding? lowered rules = .ok (some rule)) : rule ∈ rules := by
  induction rules with
  | nil => cases h
  | cons first rest ih =>
    rw [firstHolding_cons] at h
    cases hholds : first.condition.holds lowered with
    | error fault =>
      rw [hholds] at h
      cases h
    | ok holds =>
      rw [hholds] at h
      cases holds with
      | true =>
        cases h
        exact List.mem_cons_self
      | false => exact List.mem_cons_of_mem _ (ih h)

theorem condition_of_firstHolding_error {lowered : List Char} {rules : List Rule} {fault : Fault}
    (h : firstHolding? lowered rules = .error fault) :
    ∃ rule ∈ rules, rule.condition.holds lowered = .error fault := by
  induction rules with
  | nil => cases h
  | cons first rest ih =>
    rw [firstHolding_cons] at h
    cases hholds : first.condition.holds lowered with
    | error fault' =>
      rw [hholds] at h
      cases h
      exact ⟨first, List.mem_cons_self, hholds⟩
    | ok holds =>
      rw [hholds] at h
      cases holds with
      | true => cases h
      | false =>
        obtain ⟨rule, hmem, hrule⟩ := ih h
        exact ⟨rule, List.mem_cons_of_mem _ hmem, hrule⟩

theorem matching_eq (rules : List Rule) (question : String) :
    matching rules question =
      match firstHolding? (lower question.toList) rules with
      | .ok (some rule) => .ok rule
      | .ok none => rules.getLast?.elim (.error noRules) .ok
      | .error fault => .error fault := by
  unfold matching matchingLowered
  cases firstHolding? (lower question.toList) rules with
  | error fault => rfl
  | ok found =>
    cases found with
    | some rule => rfl
    | none =>
      simp only [bind, Except.bind]
      cases rules.getLast? with
      | none => rfl
      | some last => rfl

theorem mem_of_matching {rules : List Rule} {question : String} {rule : Rule}
    (h : matching rules question = .ok rule) : rule ∈ rules := by
  rw [matching_eq] at h
  split at h
  · rename_i hfound
    cases h
    exact mem_of_firstHolding hfound
  · cases hlast : rules.getLast? with
    | none =>
      rw [hlast] at h
      cases h
    | some last =>
      rw [hlast] at h
      cases h
      exact List.mem_of_getLast? hlast
  · cases h

/-- With at least one rule, no condition failing means that a rule is found. -/
theorem condition_of_matching_error {rules : List Rule} {question : String} {fault : Fault}
    (hrules : rules ≠ []) (h : matching rules question = .error fault) :
    ∃ rule ∈ rules, rule.condition.holds (lower question.toList) = .error fault := by
  rw [matching_eq] at h
  split at h
  · cases h
  · rw [List.getLast?_eq_some_getLast hrules] at h
    cases h
  · rename_i hfound
    cases h
    exact condition_of_firstHolding_error hfound

theorem statement_eq (rules : List Rule) (question : String) :
    statement rules question =
      match matching rules question with
      | .ok rule => rule.render question.toList
      | .error fault => .error fault := by
  unfold statement
  cases matching rules question <;> rfl

theorem ruleFails_of_statement_error {rules : List Rule} {question : String} {fault : Fault}
    (hrules : rules ≠ []) (h : statement rules question = .error fault) : RuleFails rules question := by
  rw [statement_eq] at h
  cases hmatch : matching rules question with
  | ok rule =>
    rw [hmatch] at h
    exact ⟨rule, mem_of_matching hmatch, fault, .inr ⟨hmatch, h⟩⟩
  | error fault' =>
    obtain ⟨rule, hmem, hrule⟩ := condition_of_matching_error hrules hmatch
    exact ⟨rule, hmem, fault', .inl ⟨hmatch, hrule⟩⟩

end TenderQuery.Fallback
