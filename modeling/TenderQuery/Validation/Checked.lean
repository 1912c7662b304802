/-!
# Checked values

A value read from outside is either valid or comes with the list of everything that is wrong with it.

- `Defect` says what is wrong, `Issue` also where: at which key or index below the value that was read.
- `Checked` collects the issues of all parts of a value in their order; a value is valid only if every
  part of it is.
-/
set_option autoImplicit false
namespace TenderQuery.Validation

inductive Defect where
  | missing
  | textType
  | textTooLong
  | wholeType
  | wholeText
  | wholeTextSize
  | fractional
  | notFinite
  | realType
  | realText
  | truthType
  | truthText
  | choice
  | tooSmall
  | notAbove
  | tooLarge
  | listType
  | objectType
  | objectContent
  | malformedJson
  deriving DecidableEq, Repr

/-- The name under which a defect is reported. -/
def Defect.label : Defect → String
  | missing => "missing"
  | textType => "string_type"
  | textTooLong => "string_too_long"
  | wholeType => "int_type"
  | wholeText => "int_parsing"
  | wholeTextSize => "int_parsing_size"
  | fractional => "int_from_float"
  | notFinite => "finite_number"
  | realType => "float_type"
  | realText => "float_parsing"
  | truthType => "bool_type"
  | truthText => "bool_parsing"
  | choice => "literal_error"
  | tooSmall => "greater_than_equal"
  | notAbove => "greater_than"
  | tooLarge => "less_than_equal"
  | listType => "list_type"
  | objectType => "model_type"
  | objectContent => "model_attributes_type"
  | malformedJson => "json_invalid"

/-- One move from a value to a part of it. -/
inductive Step where
  | key (name : String)
  | index (i : Nat)
  deriving DecidableEq, Repr

structure Issue where
  place : List Step
  defect : Defect
  deriving DecidableEq, Repr

/-- The issue as seen from the value around the part that it is about. -/
def Issue.under (step : Step) (issue : Issue) : Issue := { issue with place := step :: issue.place }

inductive Checked (α : Type) where
  | valid (a : α)
  | invalid (issues : List Issue)
  deriving Repr

namespace Checked
variable {α β : Type}

def map (f : α → β) : Checked α → Checked β
  | valid a => valid (f a)
  | invalid issues => invalid issues

/-- Both parts are read, whatever comes of the first. -/
def combine : Checked (α → β) → Checked α → Checked β
  | valid f, valid a => valid (f a)
  | valid _, invalid issues => invalid issues
  | invalid issues, valid _ => invalid issues
  | invalid first, invalid second => invalid (first ++ second)

instance : Applicative Checked where
  pure := valid
  map := map
  seq f a := combine f (a ())

/-- The issues of a part as issues of the value around it. -/
def under (step : Step) : Checked α → Checked α
  | valid a => valid a
  | invalid issues => invalid (issues.map (·.under step))

def defect (d : Defect) : Checked α := invalid [⟨[], d⟩]

def ofExcept : Except Defect α → Checked α
  | .ok a => valid a
  | .error d => defect d

/-- All items, each read at its index; `first` is the index of the first one. -/
def items (read : β → Checked α) : Nat → List β → Checked (List α)
  | _, [] => valid []
  | first, b :: rest =>
    combine (map List.cons ((read b).under (.index first))) (items read (first + 1) rest)

end Checked

end TenderQuery.Validation
