import TenderQuery.Json.Reader
import TenderQuery.Json.Writer

/-!
# Written texts

A text is written so that it can be read back wherever it stands: its closing quote is the first quote that
no backslash escapes. `readText_writeText` says so for any text and anything behind it, and hence a written
text tells both the text and where it ends (`writeText_append_inj`).
-/
set_option autoImplicit false
namespace TenderQuery.Json
open TenderQuery.Text

/-! ## Hexadecimal escapes -/

theorem hexValue?_hexDigit : ∀ d < 16, hexValue? (hexDigit d) = some d := by decide

theorem hexDigits_four (n : Nat) : hexDigits 4 n =
    [hexDigit (n / 16 / 16 / 16 % 16), hexDigit (n / 16 / 16 % 16), hexDigit (n / 16 % 16),
      hexDigit (n % 16)] := rfl

theorem hexUnit?_hexDigits (n : Nat) (hn : n < 65536) :
    hexUnit? (hexDigit (n / 16 / 16 / 16 % 16)) (hexDigit (n / 16 / 16 % 16)) (hexDigit (n / 16 % 16))
      (hexDigit (n % 16)) = some n := by
  have hd : ∀ m, hexValue? (hexDigit (m % 16)) = some (m % 16) :=
    fun m => hexValue?_hexDigit _ (Nat.mod_lt m (by decide))
  simp only [hexUnit?, hd, bind, Option.bind, pure, Option.some.injEq]
  omega

theorem readUnits_escapeUnit (n : Nat) (hn : n < 65536) (r : List Char) :
    readUnits (escapeUnit n ++ r) = (readUnits r).map fun (units, rest) => (n :: units, rest) := by
  rw [escapeUnit, hexDigits_four]
  simp only [List.cons_append, List.nil_append, readUnits, hexUnit?_hexDigits n hn]
  cases readUnits r <;> rfl

/-! ## Characters -/

theorem readUnits_simpleEscape (e : Char) (n : Nat) (he : simpleEscape? e = some n) (r : List Char) :
    readUnits ('\\' :: e :: r) = (readUnits r).map fun (units, rest) => (n :: units, rest) := by
  unfold simpleEscape? at he
  split at he <;> cases he <;> simp [readUnits, simpleEscape?] <;> cases readUnits r <;> rfl

theorem readUnits_plain (c : Char) (hc : 32 ≤ c.toNat) (hq : c ≠ '"') (hb : c ≠ '\\') (r : List Char) :
    readUnits (c :: r) = (readUnits r).map fun (units, rest) => (c.toNat :: units, rest) := by
  rw [readUnits.eq_def]
  split
  · rename_i h; cases h
  · rename_i h; injection h with h; exact absurd h hq
  · rename_i h; injection h with h; exact absurd h hb
  · rename_i h; injection h with h; exact absurd h hb
  · rename_i c' r' _ _ _ h
    injection h with h₁ h₂
    subst h₁ h₂
    have hn : ¬ (c.toNat < 32) := by omega
    simp [hn, hb]

theorem char_lt (c : Char) : c.toNat < 0x110000 := by
  have h := c.valid
  simp only [UInt32.isValidChar, Nat.isValidChar] at h
  have e : c.toNat = c.val.toNat := rfl
  omega

theorem unitsOf_of_lt {c : Char} (h : c.toNat < 65536) : unitsOf c = [c.toNat] := by
  simp [unitsOf, h]

theorem unitsOf_of_le {c : Char} (h : 65536 ≤ c.toNat) :
    unitsOf c = [0xD800 + (c.toNat - 65536) / 1024, 0xDC00 + (c.toNat - 65536) % 1024] := by
  have hn : ¬ c.toNat < 65536 := by omega
  simp [unitsOf, hn]

theorem readUnits_units (c : Char) (r : List Char) :
    readUnits ((unitsOf c).flatMap escapeUnit ++ r) =
      (readUnits r).map fun (units, rest) => (unitsOf c ++ units, rest) := by
  have hlt := char_lt c
  by_cases h : c.toNat < 65536
  · rw [unitsOf_of_lt h, List.flatMap_cons, List.flatMap_nil, List.append_nil, readUnits_escapeUnit _ h]
    rfl
  · rw [unitsOf_of_le (by omega)]
    simp only [List.flatMap_cons, List.flatMap_nil, List.append_nil, List.append_assoc]
    rw [readUnits_escapeUnit _ (by omega), readUnits_escapeUnit _ (by omega), Option.map_map]
    rfl

theorem readUnits_writeChar (c : Char) (r : List Char) :
    readUnits (writeChar c ++ r) = (readUnits r).map fun (units, rest) => (unitsOf c ++ units, rest) := by
  have hsimple : ∀ (e : Char) (n : Nat), c.toNat = n → n < 65536 → simpleEscape? e = some n →
      readUnits ('\\' :: e :: r) =
        (readUnits r).map fun (units, rest) => (unitsOf c ++ units, rest) := by
    intro e n hn hlt he
    subst hn
    rw [readUnits_simpleEscape e _ he, unitsOf_of_lt hlt]
    rfl
  unfold writeChar
  split
  · rename_i h; subst h; exact hsimple '"' 34 rfl (by decide) rfl
  split
  · rename_i h; subst h; exact hsimple '\\' 92 rfl (by decide) rfl
  split
  · rename_i hq hb h
    have hc : 32 ≤ c.toNat ∧ c.toNat < 127 := by simpa using h
    rw [List.singleton_append, readUnits_plain c hc.1 hq hb, unitsOf_of_lt (by omega)]
    rfl
  split
  · rename_i h; subst h; exact hsimple 'n' 10 rfl (by decide) rfl
  split
  · rename_i h; subst h; exact hsimple 'r' 13 rfl (by decide) rfl
  split
  · rename_i h; subst h; exact hsimple 't' 9 rfl (by decide) rfl
  split
  · rename_i h; exact hsimple 'b' 8 h (by decide) rfl
  split
  · rename_i h; exact hsimple 'f' 12 h (by decide) rfl
  · exact readUnits_units c r

theorem joinUnits_unitsOf (c : Char) (units : List Nat) :
    joinUnits (unitsOf c ++ units) = c :: joinUnits units := by
  have hlt := char_lt c
  have hvalid := c.valid
  simp only [UInt32.isValidChar, Nat.isValidChar] at hvalid
  have e : c.toNat = c.val.toNat := rfl
  by_cases h : c.toNat < 65536
  · rw [unitsOf_of_lt h]
    have hh : isHighUnit c.toNat = false := by simp [isHighUnit]; omega
    have hl : isLowUnit c.toNat = false := by simp [isLowUnit]; omega
    cases units with
    | nil => simp [joinUnits, hh, hl]
    | cons m rest => simp [joinUnits, hh, hl]
  · rw [unitsOf_of_le (by omega)]
    have hh : isHighUnit (0xD800 + (c.toNat - 65536) / 1024) = true := by simp [isHighUnit]; omega
    have hl : isLowUnit (0xDC00 + (c.toNat - 65536) % 1024) = true := by simp [isLowUnit]; omega
    have hn : 65536 + (0xD800 + (c.toNat - 65536) / 1024 - 0xD800) * 1024
        + (0xDC00 + (c.toNat - 65536) % 1024 - 0xDC00) = c.toNat := by omega
    simp only [List.cons_append, List.nil_append, joinUnits, hh, hl, Bool.and_self, if_true, hn,
      Char.ofNat_toNat]

/-! ## Texts -/

theorem readUnits_flatMap_writeChar (s rest : List Char) :
    readUnits (s.flatMap writeChar ++ '"' :: rest) = some (s.flatMap unitsOf, rest) := by
  induction s with
  | nil => simp [readUnits]
  | cons c s ih =>
    rw [List.flatMap_cons, List.append_assoc, readUnits_writeChar, ih]
    rfl

theorem joinUnits_flatMap_unitsOf (s : List Char) : joinUnits (s.flatMap unitsOf) = s := by
  induction s with
  | nil => rfl
  | cons c s ih => rw [List.flatMap_cons, joinUnits_unitsOf, ih]

/-- A written text, its opening quote apart, is read back whatever follows it. -/
theorem readText_writeText (s : String) (rest : List Char) :
    readText ((writeText s).tail ++ rest) = some (s, rest) := by
  have h : (writeText s).tail ++ rest = s.toList.flatMap writeChar ++ '"' :: rest := by
    simp [writeText]
  rw [h, readText, readUnits_flatMap_writeChar]
  simp [joinUnits_flatMap_unitsOf]

theorem writeText_append_inj {s t : String} {x y : List Char}
    (h : writeText s ++ x = writeText t ++ y) : s = t ∧ x = y := by
  have htail : (writeText s).tail ++ x = (writeText t).tail ++ y := by
    have h' : '"' :: ((writeText s).tail ++ x) = '"' :: ((writeText t).tail ++ y) := h
    exact (List.cons.inj h').2
  have hs := readText_writeText s x
  rw [htail, readText_writeText t y] at hs
  have e := Option.some.inj hs
  exact ⟨(congrArg Prod.fst e).symm, (congrArg Prod.snd e).symm⟩

end TenderQuery.Json
