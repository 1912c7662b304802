import TenderQuery.Fallback.Template

/-!
# Fallback rules

A rule pairs a condition on the lower case question with the template of a statement that needs no check.

- `Condition.holds` decides a condition, or fails where a custom test does.
- `Rule.render` is the rule's statement for a question.
- `matching` gives the first rule whose condition holds, or else the last rule; an empty list of rules
  has none.
-/
set_option autoImplicit false
namespace TenderQuery.Fallback
open TenderQuery.Text

/-- What a rule asks of the lower case question. -/
inductive Condition where
  | always
  | mentions (words : List String)
  | namesYear
  | both (first second : Condition)
  | custom (test : List Char → Except Fault Bool)

/-- The second of two conditions is looked at only if the first one holds. -/
def Condition.holds : Condition → List Char → Except Fault Bool
  | always, _ => .ok true
  | mentions words, question => .ok (words.any fun w => contains w.toList question)
  | namesYear, question => .ok (year? question).isSome
  | both first second, question => do
    if ← first.holds question then second.holds question else return false
  | custom test, question => test question

structure Rule where
  name : String
  condition : Condition
  template : String

def Rule.render (rule : Rule) (question : List Char) : Except Fault String :=
  Template.render rule.template question

def noRules : Fault := ⟨.badValue, "FallbackSelector needs at least one rule"⟩

/-- The first rule whose condition holds of a question in lower case. -/
def firstHolding? (lowered : List Char) : List Rule → Except Fault (Option Rule)
  | [] => return none
  | rule :: rest => do
    if ← rule.condition.holds lowered then return some rule else firstHolding? lowered rest

/-- The rule for a question in lower case. -/
def matchingLowered (rules : List Rule) (lowered : List Char) : Except Fault Rule := do
  match ← firstHolding? lowered rules with
  | some rule => return rule
  | none =>
    match rules.getLast? with
    | some rule => return rule
    | none => throw noRules

def matching (rules : List Rule) (question : String) : Except Fault Rule :=
  matchingLowered rules (lower question.toList)

/-- The matching rule, if no condition fails and there is a rule at all. -/
def match? (rules : List Rule) (question : String) : Option Rule := (matching rules question).toOption

/-- The statement of the matching rule, filled from the lower case question. -/
def select (rules : List Rule) (question : String) : Except Fault String := do
  let lowered := lower question.toList
  (← matchingLowered rules lowered).render lowered

/-- The statement of the matching rule, filled from the question as it was asked. -/
def statement (rules : List Rule) (question : String) : Except Fault String := do
  (← matching rules question).render question.toList

end TenderQuery.Fallback
