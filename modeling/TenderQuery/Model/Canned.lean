import TenderQuery.Model.Completion
import TenderQuery.Text.Line
import TenderQuery.Text.Scan

/-!
# A model with canned answers

Answers are chosen by the first key that occurs in the question line of the prompt, without regard to case.
The outputs of a key are given in turn, and the last one repeats.

- `Canned.complete` answers a prompt and counts the use of the key; `Canned.answer` does so for a line.
- `Canned.questionLine` is the line that keys are looked up in: the first that starts with the question
  mark of a prompt, or else the whole prompt.
-/
set_option autoImplicit false
namespace TenderQuery.Model
open TenderQuery.Text

structure Script where
  responses : List (String × List Json) := []
  default : Json := .text ""
  fail : Bool := false

/-- What a model with canned answers has been asked: prompts, and calls per key in the order of first use. -/
structure Canned where
  script : Script
  counts : List (String × Nat) := []
  prompts : List String := []

namespace Canned

def cannedName : String := "mock-llm-v1"

def questionMark : String := "USER QUESTION:"

def questionLine (prompt : String) : List Char :=
  let line := (lines prompt.toList).find? fun line => questionMark.toList.isPrefixOf line
  lower (line.getD prompt.toList)

/-- The first key that occurs in a line, with its outputs. -/
def choice? (script : Script) (line : List Char) : Option (String × List Json) :=
  script.responses.find? fun (key, _) => contains (lower key.toList) line

def count (counts : List (String × Nat)) (key : String) : Nat := (counts.lookup key).getD 0

def increment (key : String) : List (String × Nat) → List (String × Nat)
  | [] => [(key, 1)]
  | (k, n) :: rest => if k = key then (k, n + 1) :: rest else (k, n) :: increment key rest

def unavailable : Fault := ⟨.modelUnavailable, "Mock model is unavailable"⟩

def noOutput : Fault := ⟨.badIndex, "list index out of range"⟩

/-- The output for a use of a key, counted from zero. -/
def output (outputs : List Json) (use : Nat) : Except Fault Json :=
  match outputs[min use (outputs.length - 1)]? with
  | some content => .ok content
  | none => .error noOutput

/-- What is answered when keys are looked up in the line, and the calls per key after that. -/
def answer (model : Canned) (line : List Char) : Except Fault Completion × List (String × Nat) :=
  if model.script.fail then (.error unavailable, model.counts)
  else
    match choice? model.script line with
    | some (key, outputs) =>
      let content := output outputs (count model.counts key)
      (content.map fun content => ⟨content, .text cannedName, .nat 0⟩, increment key model.counts)
    | none => (.ok ⟨model.script.default, .text cannedName, .nat 0⟩, model.counts)

def complete (model : Canned) (prompt : String) : Except Fault Completion × Canned :=
  let answered := model.answer (questionLine prompt)
  (answered.1, { model with counts := answered.2, prompts := model.prompts ++ [prompt] })

/-- Forgets all calls. -/
def reset (model : Canned) : Canned := { model with counts := [], prompts := [] }

end Canned

end TenderQuery.Model
