import TenderQuery.Fault
import TenderQuery.Json.Basic

/-!
# Completions

A model is asked with a prompt and, if the caller cares, a temperature and a limit of tokens. Its answer is
taken as it comes: the content need not be a text, nor the model's name, nor the number of tokens a number.
-/
set_option autoImplicit false
namespace TenderQuery.Model

structure Request where
  prompt : String
  temperature : Json := .null
  maxTokens : Json := .null

structure Completion where
  content : Json
  model : Json
  tokens : Json := .nat 0

end TenderQuery.Model
