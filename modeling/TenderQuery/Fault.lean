import TenderQuery.Text.Quoted

/-!
# Faults

A fault is what a step of the service or one of its collaborators fails with: a kind and a text.

- The kinds from `invalidQuestion` to `assistant` belong to the service itself (`isOwn`); the others come
  from elsewhere. `cancelled` is not an error but the end of the request.
- `Fault.summary` names the kind and gives the text, for the audit log.
- `fault?` is the fault that a result is, if it is one.
-/
set_option autoImplicit false
namespace TenderQuery

inductive FaultKind where
  | invalidQuestion
  | introspection
  | modelUnavailable
  | noQueryGenerated
  | unsafeQuery
  | badSyntax
  | execution
  | fallbackExhausted
  | stageOrder
  | audit
  | assistant
  | badValue
  | runtime
  | database
  | missingKey
  | badIndex
  | badType
  | missingAttribute
  | cancelled
  deriving DecidableEq, Repr

namespace FaultKind

/-- The name under which a kind is reported; a statement that is not safe and one that has a bad shape are
reported alike. -/
def label : FaultKind → String
  | invalidQuestion => "InvalidQuestionError"
  | introspection => "IntrospectionError"
  | modelUnavailable => "ModelUnavailableError"
  | noQueryGenerated => "NoQueryGenerated"
  | unsafeQuery => "UnsafeQueryRejected"
  | badSyntax => "UnsafeQueryRejected"
  | execution => "ExecutionError"
  | fallbackExhausted => "FallbackExhaustedError"
  | stageOrder => "StageOrderError"
  | audit => "AuditError"
  | assistant => "TenderSQLError"
  | badValue => "ValueError"
  | runtime => "RuntimeError"
  | database => "SQLAlchemyError"
  | missingKey => "KeyError"
  | badIndex => "IndexError"
  | badType => "TypeError"
  | missingAttribute => "AttributeError"
  | cancelled => "CancelledError"

def all : List FaultKind :=
  [invalidQuestion, introspection, modelUnavailable, noQueryGenerated, unsafeQuery, badSyntax,
   execution, fallbackExhausted, stageOrder, audit, assistant, badValue, runtime, database, missingKey,
   badIndex, badType, missingAttribute, cancelled]

def ofLabel? (name : String) : Option FaultKind := all.find? fun kind => kind.label == name

/-- A failure that the service itself defines. -/
def isOwn : FaultKind → Bool
  | invalidQuestion | introspection | modelUnavailable | noQueryGenerated | unsafeQuery | badSyntax
  | execution | fallbackExhausted | stageOrder | audit | assistant => true
  | _ => false

end FaultKind

structure Fault where
  kind : FaultKind
  message : String
  deriving DecidableEq, Repr

namespace Fault

/-- A missing key is shown in quotes, any other text as it is. -/
def text (fault : Fault) : String :=
  match fault.kind with
  | .missingKey => Text.quoted fault.message
  | _ => fault.message

def summary (fault : Fault) : String := fault.kind.label ++ ": " ++ fault.text

end Fault

def fault? {α : Type} : Except Fault α → Option Fault
  | .ok _ => none
  | .error fault => some fault

end TenderQuery
