import TenderQuery.Text.PrintableTable
import TenderQuery.Text.Word

/-!
# Quoted text

- `quoted s` shows a text between quotes so that every character can be seen: single quotes, or double
  ones when the text holds a single quote and no double quote. Backslashes, the chosen quote, controls and
  characters without a shape of their own are escaped.
- `quotedBytes` shows bytes in the same way, all but printable ASCII by their hexadecimal code.
-/
set_option autoImplicit false
namespace TenderQuery.Text

def hexDigit (n : Nat) : Char :=
  if n < 10 then Char.ofNat (48 + n) else Char.ofNat (87 + n)

/-- The last `width` hexadecimal digits of a number. -/
def hexDigits : Nat → Nat → List Char
  | 0, _ => []
  | width + 1, n => hexDigits width (n / 16) ++ [hexDigit (n % 16)]

def isPrintable (c : Char) : Bool :=
  if c.toNat < 127 then 32 ≤ c.toNat else c.toNat != 127 && !inRanges hiddenRanges c.toNat

def escapeByCode (c : Char) : List Char :=
  let n := c.toNat
  if n < 256 then '\\' :: 'x' :: hexDigits 2 n
  else if n < 65536 then '\\' :: 'u' :: hexDigits 4 n
  else '\\' :: 'U' :: hexDigits 8 n

def quotedChar (quote c : Char) : List Char :=
  if c = '\\' || c = quote then ['\\', c]
  else if c = '\n' then ['\\', 'n']
  else if c = '\r' then ['\\', 'r']
  else if c = '\t' then ['\\', 't']
  else if isPrintable c then [c]
  else escapeByCode c

def quoteFor (s : List Char) : Char :=
  if s.contains '\'' && !s.contains '"' then '"' else '\''

def quoted (s : String) : String :=
  let quote := quoteFor s.toList
  String.ofList (quote :: s.toList.flatMap (quotedChar quote) ++ [quote])

def quotedBytes (bytes : List UInt8) : String :=
  let chars := bytes.map fun b => Char.ofNat b.toNat
  let quote := quoteFor chars
  let shown := chars.flatMap fun c => if c.toNat < 128 then quotedChar quote c else escapeByCode c
  String.ofList ('b' :: quote :: shown ++ [quote])

end TenderQuery.Text
