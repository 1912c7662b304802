/-!
# Escaping text for a prompt

`escape` writes a backslash in front of backslashes and quotes, and names for line feeds, carriage returns
and tabs, so that a text stays within the quotes and the line that it is put into.
-/
set_option autoImplicit false
namespace TenderQuery.Prompt

def escapeChar (c : Char) : List Char :=
  match c with
  | '\\' => ['\\', '\\']
  | '"' => ['\\', '"']
  | '\'' => ['\\', '\'']
  | '\n' => ['\\', 'n']
  | '\r' => ['\\', 'r']
  | '\t' => ['\\', 't']
  | c => [c]

def escapeChars (s : List Char) : List Char := s.flatMap escapeChar

def escape (s : String) : String := String.ofList (escapeChars s.toList)

end TenderQuery.Prompt
