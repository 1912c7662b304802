/-!
# Text encodings

Bytes are read as UTF-8, UTF-16 or UTF-32.

- `Encoding.detect` tells the encoding of a text whose first two characters are ASCII, with or without a
  byte order mark.
- `Encoding.decode?` reads the bytes behind the mark. Surrogate code points are let through and become
  U+FFFD; any other malformed sequence is refused.
-/
set_option autoImplicit false
namespace TenderQuery.Text

inductive Encoding where
  | utf8
  | utf16 (bigEndian : Bool)
  | utf32 (bigEndian : Bool)
  deriving DecidableEq, Repr

namespace Encoding

/-- The encoding that the pattern of zero bytes at the start gives away. -/
def detectUnmarked : List UInt8 → Encoding
  | a :: b :: c :: d :: _ =>
    if a = 0 then (if b = 0 then utf32 true else utf16 true)
    else if b = 0 then (if c = 0 && d = 0 then utf32 false else utf16 false)
    else utf8
  | [a, b] => if a = 0 then utf16 true else if b = 0 then utf16 false else utf8
  | _ => utf8

/-- The encoding, and the bytes behind the byte order mark. -/
def detect (bytes : List UInt8) : Encoding × List UInt8 :=
  match bytes with
  | 0 :: 0 :: 0xFE :: 0xFF :: r => (utf32 true, r)
  | 0xFF :: 0xFE :: 0 :: 0 :: r => (utf32 false, r)
  | 0xFE :: 0xFF :: r => (utf16 true, r)
  | 0xFF :: 0xFE :: r => (utf16 false, r)
  | 0xEF :: 0xBB :: 0xBF :: r => (utf8, r)
  | bytes => (detectUnmarked bytes, bytes)

def isSurrogate (n : Nat) : Bool := 0xD800 ≤ n && n < 0xE000

/-- The character of a code point, U+FFFD for a surrogate. -/
def toChar (n : Nat) : Char := if isSurrogate n then Char.ofNat 0xFFFD else Char.ofNat n

/-- The six bits of a byte that continues a character. -/
def continuation? (b : UInt8) : Option Nat :=
  if 0x80 ≤ b && b < 0xC0 then some (b.toNat - 0x80) else none

/-- A code point that is not below `least`, which a shorter sequence could write. -/
def checked (least n : Nat) : Option Char := if least ≤ n && n ≤ 0x10FFFF then some (toChar n) else none

def decodeUtf8 : List UInt8 → Option (List Char)
  | [] => some []
  | a :: r =>
    if a < 0x80 then (decodeUtf8 r).map (Char.ofNat a.toNat :: ·)
    else if a < 0xC0 then none
    else if a < 0xE0 then match r with
      | b :: r => do
        let n := (a.toNat - 0xC0) * 64 + (← continuation? b)
        return (← checked 0x80 n) :: (← decodeUtf8 r)
      | _ => none
    else if a < 0xF0 then match r with
      | b :: c :: r => do
        let n := ((a.toNat - 0xE0) * 64 + (← continuation? b)) * 64 + (← continuation? c)
        return (← checked 0x800 n) :: (← decodeUtf8 r)
      | _ => none
    else if a < 0xF8 then match r with
      | b :: c :: d :: r => do
        let n := (((a.toNat - 0xF0) * 64 + (← continuation? b)) * 64 + (← continuation? c)) * 64
          + (← continuation? d)
        return (← checked 0x10000 n) :: (← decodeUtf8 r)
      | _ => none
    else none

def unit (bigEndian : Bool) (a b : UInt8) : Nat :=
  if bigEndian then a.toNat * 256 + b.toNat else b.toNat * 256 + a.toNat

def units16 (bigEndian : Bool) : List UInt8 → Option (List Nat)
  | [] => some []
  | [_] => none
  | a :: b :: r => (units16 bigEndian r).map (unit bigEndian a b :: ·)

/-- Joins the two units of a surrogate pair. -/
def charsOfUnits : List Nat → List Char
  | [] => []
  | [n] => [toChar n]
  | n :: m :: r =>
    if 0xD800 ≤ n && n < 0xDC00 && 0xDC00 ≤ m && m < 0xE000 then
      Char.ofNat (0x10000 + (n - 0xD800) * 1024 + (m - 0xDC00)) :: charsOfUnits r
    else toChar n :: charsOfUnits (m :: r)

def decodeUtf32 (bigEndian : Bool) : List UInt8 → Option (List Char)
  | [] => some []
  | a :: b :: c :: d :: r => do
    let n := if bigEndian then unit true a b * 65536 + unit true c d
      else unit false c d * 65536 + unit false a b
    return (← checked 0 n) :: (← decodeUtf32 bigEndian r)
  | _ => none

def decode? (encoding : Encoding) (bytes : List UInt8) : Option (List Char) :=
  match encoding with
  | utf8 => decodeUtf8 bytes
  | utf16 bigEndian => (units16 bigEndian bytes).map charsOfUnits
  | utf32 bigEndian => decodeUtf32 bigEndian bytes

end Encoding

end TenderQuery.Text
