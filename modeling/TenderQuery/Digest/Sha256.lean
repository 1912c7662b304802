/-!
# SHA-256

The digest of a list of bytes. The message is padded with a one bit, zeros and its length in bits to
blocks of 64 bytes; each block is expanded to a schedule of 64 words and mixed into eight words of state.

- `sha256` is the digest as words, `sha256Hex` the digest of a text in hexadecimal.
-/
set_option autoImplicit false
namespace TenderQuery.Digest

abbrev Word := UInt32

def rotate (w : Word) (n : Word) : Word := (w >>> n) ||| (w <<< (32 - n))

def initialState : List Word :=
  [0x6a09e667, 0xbb67ae85, 0x3c6ef372, 0xa54ff53a, 0x510e527f, 0x9b05688c, 0x1f83d9ab, 0x5be0cd19]

def roundConstants : List Word :=
  [0x428a2f98, 0x71374491, 0xb5c0fbcf, 0xe9b5dba5, 0x3956c25b, 0x59f111f1, 0x923f82a4, 0xab1c5ed5,
   0xd807aa98, 0x12835b01, 0x243185be, 0x550c7dc3, 0x72be5d74, 0x80deb1fe, 0x9bdc06a7, 0xc19bf174,
   0xe49b69c1, 0xefbe4786, 0x0fc19dc6, 0x240ca1cc, 0x2de92c6f, 0x4a7484aa, 0x5cb0a9dc, 0x76f988da,
   0x983e5152, 0xa831c66d, 0xb00327c8, 0xbf597fc7, 0xc6e00bf3, 0xd5a79147, 0x06ca6351, 0x14292967,
   0x27b70a85, 0x2e1b2138, 0x4d2c6dfc, 0x53380d13, 0x650a7354, 0x766a0abb, 0x81c2c92e, 0x92722c85,
   0xa2bfe8a1, 0xa81a664b, 0xc24b8b70, 0xc76c51a3, 0xd192e819, 0xd6990624, 0xf40e3585, 0x106aa070,
   0x19a4c116, 0x1e376c08, 0x2748774c, 0x34b0bcb5, 0x391c0cb3, 0x4ed8aa4a, 0x5b9cca4f, 0x682e6ff3,
   0x748f82ee, 0x78a5636f, 0x84c87814, 0x8cc70208, 0x90befffa, 0xa4506ceb, 0xbef9a3f7, 0xc67178f2]

/-! ## Padding -/

/-- The bytes of a number, most significant first. -/
def bytesOf : Nat → Nat → List UInt8
  | 0, _ => []
  | count + 1, n => bytesOf count (n / 256) ++ [UInt8.ofNat (n % 256)]

def padding (length : Nat) : List UInt8 :=
  0x80 :: List.replicate ((119 - length % 64) % 64) 0 ++ bytesOf 8 (length * 8)

def wordOf (a b c d : UInt8) : Word :=
  a.toUInt32 <<< 24 ||| b.toUInt32 <<< 16 ||| c.toUInt32 <<< 8 ||| d.toUInt32

/-- Groups bytes into words; what does not fill a word is dropped. -/
def words : List UInt8 → List Word
  | a :: b :: c :: d :: rest => wordOf a b c d :: words rest
  | _ => []

/-! ## Blocks -/

/-- The next word of the schedule from the sixteen before it, the latest first. -/
def nextWord (recent : List Word) : Word :=
  let w := fun i => recent.getD (i - 1) 0
  let s0 := rotate (w 15) 7 ^^^ rotate (w 15) 18 ^^^ (w 15 >>> 3)
  let s1 := rotate (w 2) 17 ^^^ rotate (w 2) 19 ^^^ (w 2 >>> 10)
  w 16 + s0 + w 7 + s1

/-- Extends a schedule, kept latest first, by a number of words. -/
def extend : Nat → List Word → List Word
  | 0, schedule => schedule
  | count + 1, schedule => extend count (nextWord schedule :: schedule)

def schedule (block : List Word) : List Word := (extend 48 block.reverse).reverse

def mix (state : List Word) (constant word : Word) : List Word :=
  match state with
  | [a, b, c, d, e, f, g, h] =>
    let s1 := rotate e 6 ^^^ rotate e 11 ^^^ rotate e 25
    let choice := (e &&& f) ^^^ (~~~e &&& g)
    let t1 := h + s1 + choice + constant + word
    let s0 := rotate a 2 ^^^ rotate a 13 ^^^ rotate a 22
    let majority := (a &&& b) ^^^ (a &&& c) ^^^ (b &&& c)
    [t1 + s0 + majority, a, b, c, d + t1, e, f, g]
  | other => other

def compress (state block : List Word) : List Word :=
  let mixed := (roundConstants.zip (schedule block)).foldl (fun s (k, w) => mix s k w) state
  state.zipWith (· + ·) mixed

/-- Mixes in sixteen words at a time; `fuel` bounds the number of blocks. -/
def compressAll : Nat → List Word → List Word → List Word
  | 0, state, _ => state
  | fuel + 1, state, message =>
    if message.isEmpty then state
    else compressAll fuel (compress state (message.take 16)) (message.drop 16)

def sha256 (message : List UInt8) : List Word :=
  let padded := words (message ++ padding message.length)
  compressAll padded.length initialState padded

/-! ## Text -/

def hexWord (w : Word) : List Char :=
  let digits := Nat.toDigits 16 w.toNat
  List.replicate (8 - digits.length) '0' ++ digits

def sha256Hex (text : String) : String :=
  String.ofList ((sha256 text.toUTF8.toList).flatMap hexWord)

end TenderQuery.Digest
