import TenderQuery.Prompt.Composer
import TenderQuery.Text.Blank
import TenderQuery.Validation.Scalar

/-!
# Requests to answer a question

A request holds a question, earlier questions and whether to look at the live schema. Members go by two
names, of which the first counts if both are there. Questions have at most 1000 characters, with the blanks
around them; the blanks are dropped after that. An earlier question may be a bare text.
-/
set_option autoImplicit false
namespace TenderQuery.Service
open Prompt (Turn)
open Validation

structure AskRequest where
  question : Option String := none
  history : List Turn := []
  useIntrospection : Bool := true
  deriving DecidableEq, Repr

namespace AskRequest

def questionLimit : Nat := 1000

def readQuestion : Reader (Option String) := fun j => do
  let question ← readOptional (readShortText questionLimit) j
  return question.map Text.trimString

def readCount : Reader (Option Int) := readOptional (readWholeWithin { least := some (.whole 0) })

def readTurn (notObject : Defect) (j : Json) : Checked Turn :=
  match j with
  | .object _ =>
    pure Turn.mk
      <*> field ["question"] j (.invalid [⟨[.key "question"], .missing⟩])
        (fun v => .ofExcept (readShortText questionLimit v))
      <*> field ["resultCount", "result_count"] j (.valid none) (fun v => .ofExcept (readCount v))
  | _ => .defect notObject

/-- A bare text stands for an object with that question. -/
def turnObject : Json → Json
  | .text s => .object [("question", .text s)]
  | j => j

/-- Reads a request; `notObject` is the defect of a value that is none but should be an object. -/
def read (notObject : Defect) (j : Json) : Checked AskRequest :=
  match j with
  | .object _ =>
    pure AskRequest.mk
      <*> field ["question"] j (.valid none) (fun v => .ofExcept (readQuestion v))
      <*> field ["conversationHistory", "history"] j (.valid [])
        (readList fun v => readTurn notObject (turnObject v))
      <*> field ["useSchemaIntrospection", "use_schema_introspection"] j (.valid true)
        (fun v => .ofExcept (readTruth v))
  | _ => .defect notObject

end AskRequest

end TenderQuery.Service
