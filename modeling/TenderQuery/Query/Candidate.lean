import TenderQuery.Fault

/-!
# Query candidates

A candidate is a statement on its way from the model's answer to execution. It passes five stages in order,
one step at a time; a step may change the text. Only at the last stage can the text be taken out.
-/
set_option autoImplicit false
namespace TenderQuery.Query

inductive Stage where
  | normalized
  | validated
  | policyApplied
  | syntaxChecked
  | final
  deriving DecidableEq, Repr

namespace Stage

def rank : Stage → Nat
  | normalized => 1
  | validated => 2
  | policyApplied => 3
  | syntaxChecked => 4
  | final => 5

def label : Stage → String
  | normalized => "NORMALIZED"
  | validated => "VALIDATED"
  | policyApplied => "POLICY_APPLIED"
  | syntaxChecked => "SYNTAX_CHECKED"
  | final => "FINAL"

def all : List Stage := [normalized, validated, policyApplied, syntaxChecked, final]

def ofLabel? (name : String) : Option Stage := all.find? fun stage => stage.label == name

end Stage

structure Candidate where
  stage : Stage
  text : String
  deriving DecidableEq, Repr

namespace Candidate

/-- A candidate starts with the normalized text unless it is given one. -/
def start (normalized : String) (stage : Stage) (text : String) : Candidate :=
  ⟨stage, if text.isEmpty then normalized else text⟩

/-- Moves to the next stage, with a new text if there is one. -/
def advance (c : Candidate) (stage : Stage) (text : Option String) : Except Fault Candidate :=
  if stage.rank = c.stage.rank + 1 then .ok ⟨stage, text.getD c.text⟩
  else .error ⟨.stageOrder, "Cannot move query from " ++ c.stage.label ++ " to " ++ stage.label⟩

def isExecutable (c : Candidate) : Bool := c.stage == .final

def finalText (c : Candidate) : Except Fault String :=
  if c.isExecutable then .ok c.text
  else .error ⟨.stageOrder, "Query is not executable at stage " ++ c.stage.label⟩

end Candidate

end TenderQuery.Query
