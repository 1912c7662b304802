import Mathlib.Data.List.Basic
import TenderQuery.Decimal.Reading
import TenderQuery.Proofs.Decimal.Shortest

/-!
# Digits and the texts of numbers

A number is written in parts, which are a `Written` again: `Written.chars` is their text, and `Writes` says
that a text is made of proper parts that are read back as a given decimal number. The texts of all decimal
numbers are (`writes_text`), whichever layout they take.
-/
set_option autoImplicit false
namespace TenderQuery.Decimal
open Binary64

/-! ## Runs of digits -/

/-- What follows does not begin with a digit. -/
def EndsDigits (rest : List Char) : Prop := ∀ c ∈ rest.head?, c.isDigit = false

theorem takeDigits_append {digits rest : List Char} (h : ∀ c ∈ digits, c.isDigit = true)
    (hrest : EndsDigits rest) : takeDigits (digits ++ rest) = (digits, rest) := by
  have hnone : rest.takeWhile Char.isDigit = [] ∧ rest.dropWhile Char.isDigit = rest := by
    cases rest with
    | nil => exact ⟨rfl, rfl⟩
    | cons c rest =>
      have hc : c.isDigit = false := hrest c rfl
      simp [hc]
  unfold takeDigits
  rw [List.takeWhile_append_of_pos h, List.dropWhile_append_of_pos h, hnone.1, hnone.2, List.append_nil]

theorem digitsToNat_eq (digits : List Char) : digitsToNat digits = Nat.ofDigitChars 10 digits 0 := by
  rw [Nat.ofDigitChars_eq_foldl]
  unfold digitsToNat
  congr 1
  funext n c
  rw [Nat.mul_comm]
  rfl

theorem digitsToNat_toDigits (n : Nat) : digitsToNat (Nat.toDigits 10 n) = n := by
  rw [digitsToNat_eq, Nat.ofDigitChars_ten_toDigits]

theorem digitsToNat_append_zeros (digits : List Char) (n : Nat) :
    digitsToNat (digits ++ zeros n) = digitsToNat digits * Nat.pow 10 n := by
  rw [digitsToNat_eq, digitsToNat_eq, Nat.ofDigitChars_append, zeros, Nat.ofDigitChars_replicate_zero,
    Nat.mul_comm]
  rfl

theorem digitsToNat_zeros_append (digits : List Char) (n : Nat) :
    digitsToNat (zeros n ++ digits) = digitsToNat digits := by
  rw [digitsToNat_eq, digitsToNat_eq, Nat.ofDigitChars_append, zeros, Nat.ofDigitChars_replicate_zero,
    Nat.mul_zero]

theorem isDigit_of_mem_zeros {n : Nat} {c : Char} (h : c ∈ zeros n) : c.isDigit = true := by
  rw [List.eq_of_mem_replicate h]
  rfl

theorem isDigit_of_mem_zero : ∀ c ∈ ['0'], c.isDigit = true := fun _ h => isDigit_of_mem_zeros (n := 1) h

theorem isDigit_of_mem_toDigits {n : Nat} {c : Char} (h : c ∈ Nat.toDigits 10 n) : c.isDigit = true :=
  Nat.isDigit_of_mem_toDigits (by decide) (by decide) h

/-- Digits of a whole number that is not zero. -/
structure IsLeading (digits : List Char) : Prop where
  ne_nil : digits ≠ []
  isDigit : ∀ c ∈ digits, c.isDigit = true
  head : digits.head? ≠ some '0'

theorem head_toDigits {n : Nat} (h : n ≠ 0) : (Nat.toDigits 10 n).head? ≠ some '0' := by
  induction n using Nat.strongRecOn with
  | ind n ih =>
    by_cases hlt : n < 10
    · rw [Nat.toDigits_of_lt_base hlt, List.head?_cons, Ne, Option.some_inj, Nat.digitChar_eq_zero]
      exact h
    · rw [Nat.toDigits_of_base_le (by decide) (by omega), List.head?_append_of_ne_nil _ Nat.toDigits_ne_nil]
      exact ih (n / 10) (by omega) (by omega)

theorem isLeading_toDigits {n : Nat} (h : n ≠ 0) : IsLeading (Nat.toDigits 10 n) :=
  ⟨Nat.toDigits_ne_nil, fun _ => isDigit_of_mem_toDigits, head_toDigits h⟩

theorem dropTrailingZeros_append (digits : List Char) :
    ∃ n, digits = dropTrailingZeros digits ++ zeros n := by
  have hsplit := List.takeWhile_append_dropWhile (p := (· == '0')) (l := digits.reverse)
  have hzeros : digits.reverse.takeWhile (· == '0') = zeros (digits.reverse.takeWhile (· == '0')).length := by
    refine List.eq_replicate_iff.mpr ⟨rfl, fun c hc => ?_⟩
    exact eq_of_beq (List.all_eq_true.mp (List.all_takeWhile) c hc)
  refine ⟨(digits.reverse.takeWhile (· == '0')).length, ?_⟩
  rw [zeros, ← List.reverse_replicate, ← zeros, ← hzeros, dropTrailingZeros, ← List.reverse_append, hsplit,
    List.reverse_reverse]

/-- Digits without the zeros at their end begin as before. -/
theorem IsLeading.dropZeros {digits : List Char} {n : Nat} (h : IsLeading (digits ++ zeros n)) :
    IsLeading digits := by
  have hne : digits ≠ [] := by
    rintro rfl
    cases n with
    | zero => exact h.ne_nil rfl
    | succ n => exact h.head rfl
  refine ⟨hne, fun c hc => h.isDigit c (List.mem_append_left _ hc), ?_⟩
  rw [← List.head?_append_of_ne_nil _ hne]
  exact h.head

/-! ## Parts -/

def fractionChars : Option (List Char) → List Char
  | none => []
  | some fraction => '.' :: fraction

def exponentChars : Option Int → List Char
  | none => []
  | some exponent => exponentText exponent

namespace Written

def chars (w : Written) : List Char := w.whole ++ (fractionChars w.fraction ++ exponentChars w.exponent)

/-- There is no needless zero in front, and what stands behind a point are digits. A part tells the number
from a whole one. -/
structure IsProper (w : Written) : Prop where
  whole : w.whole = ['0'] ∨ IsLeading w.whole
  fraction : ∀ fraction ∈ w.fraction, fraction ≠ [] ∧ ∀ c ∈ fraction, c.isDigit = true
  isReal : (w.fraction.isNone && w.exponent.isNone) = false

end Written

/-- The text consists of proper parts, which are read back as `digits * 10 ^ exponent`. -/
def Writes (chars : List Char) (digits : Nat) (exponent : Int) : Prop :=
  ∃ w : Written, w.IsProper ∧ chars = w.chars ∧
    ∀ negative, w.toBinary64 negative = ofDecimal negative digits exponent

/-- Zeros may be moved between the digits and the exponent. -/
theorem writes_mul_pow {chars : List Char} {digits n : Nat} {exponent : Int} :
    Writes chars (digits * Nat.pow 10 n) exponent ↔ Writes chars digits (exponent + n) := by
  simp only [Writes, ofDecimal_mul_pow]

theorem writes_point {whole fraction : List Char} (hwhole : whole = ['0'] ∨ IsLeading whole) (hne : fraction ≠ [])
    (hdigit : ∀ c ∈ fraction, c.isDigit = true) :
    Writes (whole ++ '.' :: fraction) (digitsToNat (whole ++ fraction)) (-fraction.length) := by
  refine ⟨⟨whole, some fraction, none⟩, ⟨hwhole, ?_, rfl⟩, ?_, ?_⟩
  · intro found hmem
    cases hmem
    exact ⟨hne, hdigit⟩
  · simp [Written.chars, fractionChars, exponentChars]
  · intro negative
    simp [Written.toBinary64]

/-! ## Layouts -/

section
variable {digits : List Char} {whole : Int}

theorem writes_pointFirst (h : IsLeading digits) (hwhole : whole ≤ 0) :
    Writes ('0' :: '.' :: zeros (-whole).toNat ++ digits) (digitsToNat digits) (whole - digits.length) := by
  have hne : zeros (-whole).toNat ++ digits ≠ [] := List.append_ne_nil_of_right_ne_nil _ h.ne_nil
  have hdigit : ∀ c ∈ zeros (-whole).toNat ++ digits, c.isDigit = true := by
    intro c hc
    obtain hc | hc := List.mem_append.mp hc
    · exact isDigit_of_mem_zeros hc
    · exact h.isDigit c hc
  have hzeros : ['0'] ++ (zeros (-whole).toNat ++ digits) = zeros ((-whole).toNat + 1) ++ digits := by
    rw [← List.append_assoc]
    rfl
  have hexponent : -((zeros (-whole).toNat ++ digits).length : Int) = whole - digits.length := by
    rw [List.length_append, zeros, List.length_replicate]
    omega
  have hwrites := writes_point (.inl rfl) hne hdigit
  rwa [hzeros, digitsToNat_zeros_append, hexponent] at hwrites

theorem writes_pointLast (h : IsLeading digits) {n : Nat} (hwhole : whole = digits.length + n) :
    Writes (digits ++ zeros n ++ ['.', '0']) (digitsToNat digits) (whole - digits.length) := by
  have hleading : IsLeading (digits ++ zeros n) := by
    refine ⟨List.append_ne_nil_of_left_ne_nil h.ne_nil _, fun c hc => ?_, ?_⟩
    · obtain hc | hc := List.mem_append.mp hc
      · exact h.isDigit c hc
      · exact isDigit_of_mem_zeros hc
    · rw [List.head?_append_of_ne_nil _ h.ne_nil]
      exact h.head
  have hzeros : digits ++ zeros n ++ ['0'] = digits ++ zeros (n + 1) := by
    rw [List.append_assoc, zeros, zeros, List.replicate_succ']
  have hexponent : -((['0'].length : Nat) : Int) + (n + 1 : Nat) = whole - digits.length := by
    rw [List.length_singleton]
    omega
  have hwrites := writes_point (.inr hleading) (List.cons_ne_nil '0' []) isDigit_of_mem_zero
  rwa [hzeros, digitsToNat_append_zeros, writes_mul_pow, hexponent] at hwrites

theorem writes_pointBetween (h : IsLeading digits) {n : Nat} (hpos : 0 < n) (hlt : n < digits.length) :
    Writes (digits.take n ++ '.' :: digits.drop n) (digitsToNat digits) (n - digits.length) := by
  have hleading : IsLeading (digits.take n) := by
    refine ⟨?_, fun c hc => h.isDigit c (List.mem_of_mem_take hc), ?_⟩
    · rw [Ne, List.take_eq_nil_iff, not_or]
      exact ⟨by omega, h.ne_nil⟩
    · rw [List.head?_take, if_neg (by omega)]
      exact h.head
  have hne : digits.drop n ≠ [] := by
    rw [Ne, List.drop_eq_nil_iff]
    omega
  have hexponent : -((digits.drop n).length : Int) = n - digits.length := by
    rw [List.length_drop]
    omega
  have hwrites := writes_point (.inr hleading) hne fun c hc => h.isDigit c (List.mem_of_mem_drop hc)
  rwa [List.take_append_drop, hexponent] at hwrites

theorem writes_positional (h : IsLeading digits) (whole : Int) :
    Writes (positional digits whole) (digitsToNat digits) (whole - digits.length) := by
  unfold positional
  split
  · rename_i hwhole
    exact writes_pointFirst h hwhole
  · rename_i hwhole
    dsimp only
    split
    · rename_i hlength
      exact writes_pointLast h (by omega)
    · rename_i hlength
      have hnat : ((whole.toNat : Nat) : Int) = whole := by omega
      have hwrites := writes_pointBetween h (n := whole.toNat) (by omega) (by omega)
      rwa [hnat] at hwrites

end

theorem writes_exponential {digits : List Char} (h : IsLeading digits) (exponent : Int) :
    Writes (exponential digits exponent) (digitsToNat digits) (exponent + 1 - digits.length) := by
  obtain ⟨hne, hdigit, hhead⟩ := h
  have hleading : ∀ d rest, digits = d :: rest → IsLeading [d] := by
    rintro d rest rfl
    refine ⟨List.cons_ne_nil _ _, fun c hc => ?_, hhead⟩
    rw [List.mem_singleton.mp hc]
    exact hdigit d List.mem_cons_self
  unfold exponential
  split
  · exact absurd rfl hne
  · rename_i d
    refine ⟨⟨[d], none, some exponent⟩, ⟨.inr (hleading d [] rfl), nofun, rfl⟩, rfl, ?_⟩
    intro negative
    have hexponent : exponent - ((0 : Nat) : Int) = exponent + 1 - ([d].length : Nat) := by
      rw [List.length_singleton]
      omega
    simp only [Written.toBinary64, Option.getD_some, Option.getD_none, List.append_nil, List.length_nil]
    rw [hexponent]
  · rename_i d fraction hfraction
    refine ⟨⟨[d], some fraction, some exponent⟩, ⟨.inr (hleading d fraction rfl), ?_, rfl⟩, ?_, ?_⟩
    · intro found hmem
      cases hmem
      exact ⟨fun hnil => hfraction hnil, fun c hc => hdigit c (List.mem_cons_of_mem _ hc)⟩
    · simp [Written.chars, fractionChars, exponentChars]
    · intro negative
      have hexponent : exponent - (fraction.length : Int) = exponent + 1 - ((d :: fraction).length : Nat) := by
        rw [List.length_cons]
        omega
      simp only [Written.toBinary64, Option.getD_some, List.singleton_append]
      rw [hexponent]

/-- The text of a decimal number is read back as that number. -/
theorem writes_text {s : Scaled} (h : s.digits ≠ 0) : Writes s.text s.digits s.exponent := by
  obtain ⟨n, hzeros⟩ := dropTrailingZeros_append (Nat.toDigits 10 s.digits)
  have hleading : IsLeading (dropTrailingZeros (Nat.toDigits 10 s.digits)) :=
    (hzeros ▸ isLeading_toDigits h).dropZeros
  have hvalue : digitsToNat (dropTrailingZeros (Nat.toDigits 10 s.digits)) * Nat.pow 10 n = s.digits := by
    rw [← digitsToNat_append_zeros, ← hzeros, digitsToNat_toDigits]
  have hlength : (Nat.toDigits 10 s.digits).length =
      (dropTrailingZeros (Nat.toDigits 10 s.digits)).length + n := by
    have hlengths := congrArg List.length hzeros
    rwa [List.length_append, zeros, List.length_replicate] at hlengths
  -- Both layouts write the digits that are left, for the exponent that makes up for the zeros.
  rw [← hvalue, writes_mul_pow]
  unfold Scaled.text
  dsimp only
  split
  · have hexponent : s.exponent + n = (Nat.toDigits 10 s.digits).length + s.exponent -
        (dropTrailingZeros (Nat.toDigits 10 s.digits)).length := by omega
    rw [hexponent]
    exact writes_positional hleading _
  · have hexponent : s.exponent + n = (Nat.toDigits 10 s.digits).length + s.exponent - 1 + 1 -
        (dropTrailingZeros (Nat.toDigits 10 s.digits)).length := by omega
    rw [hexponent]
    exact writes_exponential hleading _

theorem writes_text_zero : Writes (Scaled.text ⟨0, 0⟩) 0 0 := by
  have htext : Scaled.text ⟨0, 0⟩ = ['0'] ++ ['.', '0'] := by decide
  have hexponent : (0 : Int) = -1 + (1 : Nat) := rfl
  rw [htext, hexponent, ← writes_mul_pow]
  exact writes_point (.inl rfl) (List.cons_ne_nil '0' []) isDigit_of_mem_zero

end TenderQuery.Decimal
