import TenderQuery.Proofs.Decimal.Digits
import TenderQuery.Proofs.Json.Canonical

/-!
# Written numbers

A number is read back from its text, whatever it is: whole numbers digit by digit if they are not too long,
binary numbers by the rounding of their shortest digits, and those that are no number by their names
(`readScalar_writeNumber`).
-/
set_option autoImplicit false
namespace TenderQuery.Json
open TenderQuery.Decimal

/-- What follows a value: nothing, or a comma, a colon or a closing bracket. -/
def EndsValue (rest : List Char) : Prop := ∀ c ∈ rest.head?, (isClosing c || isSeparator c) = true

/-- What follows the fraction of a number. -/
def EndsFraction (rest : List Char) : Prop := ∀ c ∈ rest.head?, c.isDigit = false ∧ c ≠ '.'

theorem eq_of_delimits {c : Char} (h : (isClosing c || isSeparator c) = true) :
    c = ']' ∨ c = '\x7d' ∨ c = ',' ∨ c = ':' := by
  simpa [isClosing, isSeparator, or_assoc] using h

theorem EndsFraction.endsDigits {rest : List Char} (h : EndsFraction rest) : EndsDigits rest :=
  fun c hc => (h c hc).1

theorem EndsValue.endsFraction {rest : List Char} (h : EndsValue rest) : EndsFraction rest := by
  intro c hc
  obtain rfl | rfl | rfl | rfl := eq_of_delimits (h c hc) <;> decide

/-! ## Parts -/

theorem readWhole_append {whole rest : List Char} (h : whole = ['0'] ∨ IsLeading whole) (hrest : EndsDigits rest) :
    readWhole (whole ++ rest) = some (whole, rest) := by
  obtain rfl | hleading := h
  · rfl
  · have htake := takeDigits_append hleading.isDigit hrest
    cases whole with
    | nil => exact absurd rfl hleading.ne_nil
    | cons c whole =>
      have hc : c ≠ '0' := fun hzero => hleading.head (hzero ▸ rfl)
      unfold readWhole
      split
      · rename_i hcons
        exact absurd (List.cons.inj hcons).1 hc
      · rw [htake]

theorem readDigitFraction_append {fraction : Option (List Char)} {rest : List Char}
    (h : ∀ digits ∈ fraction, digits ≠ [] ∧ ∀ c ∈ digits, c.isDigit = true) (hrest : EndsFraction rest) :
    readDigitFraction (fractionChars fraction ++ rest) = (fraction, rest) := by
  cases fraction with
  | none =>
    unfold readDigitFraction fractionChars
    split
    · rename_i hcons
      exact absurd rfl (hrest '.' (by rw [← List.nil_append rest, hcons]; rfl)).2
    · rfl
  | some digits =>
    obtain ⟨hne, hdigit⟩ := h digits rfl
    have htake := takeDigits_append hdigit hrest.endsDigits
    unfold readDigitFraction fractionChars
    rw [List.cons_append]
    simp only [htake]

theorem readExponent_append {digits rest : List Char} (negative : Bool) (hne : digits ≠ [])
    (hdigit : ∀ c ∈ digits, c.isDigit = true) (hrest : EndsDigits rest) :
    readExponent ('e' :: (if negative then '-' else '+') :: (digits ++ rest)) =
      (some (if negative then -(digitsToNat digits : Int) else digitsToNat digits), rest) := by
  have hsign : readSign ((if negative then '-' else '+') :: (digits ++ rest)) = (negative, digits ++ rest) := by
    cases negative <;> rfl
  unfold readExponent
  simp only [decide_true, Bool.true_or, if_true, hsign, takeDigits_append hdigit hrest]

theorem readExponent_exponentText (exponent : Int) {rest : List Char} (hrest : EndsDigits rest) :
    readExponent (exponentText exponent ++ rest) = (some exponent, rest) := by
  have hdigit : ∀ c ∈ zeros (2 - (Nat.toDigits 10 exponent.natAbs).length) ++ Nat.toDigits 10 exponent.natAbs,
      c.isDigit = true := by
    intro c hc
    obtain hc | hc := List.mem_append.mp hc
    · exact isDigit_of_mem_zeros hc
    · exact isDigit_of_mem_toDigits hc
  have hne : zeros (2 - (Nat.toDigits 10 exponent.natAbs).length) ++ Nat.toDigits 10 exponent.natAbs ≠ [] :=
    List.append_ne_nil_of_right_ne_nil _ Nat.toDigits_ne_nil
  have hread := readExponent_append (exponent < 0) hne hdigit hrest
  rw [digitsToNat_zeros_append, digitsToNat_toDigits] at hread
  have hvalue : (if decide (exponent < 0) = true then -(exponent.natAbs : Int) else exponent.natAbs) = exponent := by
    simp only [decide_eq_true_eq]
    split <;> omega
  rw [hvalue] at hread
  simpa [exponentText] using hread

theorem readExponent_append_chars {exponent : Option Int} {rest : List Char} (hrest : EndsValue rest) :
    readExponent (exponentChars exponent ++ rest) = (exponent, rest) := by
  cases exponent with
  | some exponent => exact readExponent_exponentText exponent hrest.endsFraction.endsDigits
  | none =>
    cases rest with
    | nil => rfl
    | cons c rest =>
      have hc : (decide (c = 'e') || decide (c = 'E')) = false := by
        obtain rfl | rfl | rfl | rfl := eq_of_delimits (hrest c rfl) <;> decide
      simp only [exponentChars, List.nil_append, readExponent, hc, Bool.false_eq_true, if_false]

theorem EndsValue.endsFraction_append {rest : List Char} (h : EndsValue rest) (exponent : Option Int) :
    EndsFraction (exponentChars exponent ++ rest) := by
  cases exponent with
  | none => exact h.endsFraction
  | some exponent =>
    intro c hc
    cases hc
    decide

theorem endsDigits_append (fraction : Option (List Char)) {rest : List Char} (hrest : EndsFraction rest) :
    EndsDigits (fractionChars fraction ++ rest) := by
  cases fraction with
  | none => exact hrest.endsDigits
  | some digits =>
    intro c hc
    cases hc
    decide

/-! ## Numbers -/

/-- The parts of a binary number are read back. -/
theorem readNumber_chars {w : Written} (h : w.IsProper) (limit : DigitLimit) (negative : Bool) {rest : List Char}
    (hrest : EndsValue rest) :
    readNumber limit negative (w.chars ++ rest) = some (real (w.toBinary64 negative), rest) := by
  have hexponent := hrest.endsFraction_append w.exponent
  have hread := readWhole_append h.whole (endsDigits_append w.fraction hexponent)
  unfold readNumber Written.chars
  rw [List.append_assoc, List.append_assoc, hread]
  simp only [Option.bind_eq_bind, Option.bind_some, readDigitFraction_append h.fraction hexponent,
    readExponent_append_chars hrest, h.isReal]
  rfl

/-- The digits of a whole number are read back if they are not too many. -/
theorem readNumber_toDigits {limit : DigitLimit} {n : Nat}
    (hlimit : ∀ digits ∈ limit, (Nat.toDigits 10 n).length ≤ digits) (negative : Bool) {rest : List Char}
    (hrest : EndsValue rest) :
    readNumber limit negative (Nat.toDigits 10 n ++ rest) =
      some (int (if negative then -(n : Int) else n), rest) := by
  have hwhole : Nat.toDigits 10 n = ['0'] ∨ IsLeading (Nat.toDigits 10 n) := by
    by_cases hzero : n = 0
    · exact .inl (hzero ▸ Nat.toDigits_zero 10)
    · exact .inr (isLeading_toDigits hzero)
  have hwithin : ¬(limit.any fun digits => digits < (Nat.toDigits 10 n).length) = true := by
    cases limit with
    | none => exact Bool.false_ne_true
    | some digits =>
      have hle := hlimit digits rfl
      simpa using hle
  have hfraction : readDigitFraction rest = (none, rest) :=
    @readDigitFraction_append none rest nofun hrest.endsFraction
  have hexponent : readExponent rest = (none, rest) := @readExponent_append_chars none rest hrest
  unfold readNumber
  rw [readWhole_append hwhole hrest.endsFraction.endsDigits]
  simp only [Option.bind_eq_bind, Option.bind_some, hfraction, hexponent, Option.isNone_none, Bool.and_self,
    if_true, digitsToNat_toDigits]
  rw [if_neg hwithin]
  rfl

/-! ## Names -/

theorem ne_of_isDigit {c d : Char} (h : c.isDigit = true) (hd : d.isDigit = false) : d ≠ c := by
  rintro rfl
  rw [h] at hd
  cases hd

theorem readName_of_digit {c : Char} (h : c.isDigit = true) (rest : List Char) : readName (c :: rest) = none := by
  simp [readName, dropExact, ne_of_isDigit h (rfl : 'n'.isDigit = false), ne_of_isDigit h (rfl : 't'.isDigit = false),
    ne_of_isDigit h (rfl : 'f'.isDigit = false), ne_of_isDigit h (rfl : 'N'.isDigit = false),
    ne_of_isDigit h (rfl : 'I'.isDigit = false), ne_of_isDigit h (rfl : '-'.isDigit = false)]

theorem readName_of_minus {c : Char} (h : c.isDigit = true) (rest : List Char) :
    readName ('-' :: c :: rest) = none := by
  simp [readName, dropExact, ne_of_isDigit h (rfl : 'I'.isDigit = false)]

def BeginsWithDigit (s : List Char) : Prop := ∃ c tail, s = c :: tail ∧ c.isDigit = true

/-- What begins with a digit or with a minus and a digit is a number and not a name. -/
theorem readScalar_of_digits {digits : List Char} (h : BeginsWithDigit digits)
    (limit : DigitLimit) (negative : Bool) (rest : List Char) :
    readScalar limit ((if negative then ['-'] else []) ++ digits ++ rest) =
      readNumber limit negative (digits ++ rest) := by
  obtain ⟨c, tail, rfl, hc⟩ := h
  have hminus : '-' ≠ c := ne_of_isDigit hc rfl
  unfold readScalar
  cases negative with
  | true =>
    have hname := readName_of_minus hc (tail ++ rest)
    rw [if_pos rfl, List.singleton_append, List.cons_append, List.cons_append, hname]
    rfl
  | false =>
    have hname := readName_of_digit hc (tail ++ rest)
    rw [if_neg Bool.false_ne_true, List.nil_append, List.cons_append, hname]
    dsimp only
    split
    · rename_i hcons
      exact absurd (List.cons.inj hcons).1.symm hminus
    · rfl

theorem beginsWithDigit_of_isLeading {whole : List Char} (h : whole = ['0'] ∨ IsLeading whole) :
    BeginsWithDigit whole := by
  obtain rfl | hleading := h
  · exact ⟨'0', [], rfl, rfl⟩
  · cases whole with
    | nil => exact absurd rfl hleading.ne_nil
    | cons c tail => exact ⟨c, tail, rfl, hleading.isDigit c List.mem_cons_self⟩

/-! ## Values that are numbers -/

theorem readScalar_writeNumber_whole {limit : DigitLimit} {n : Int}
    (hlimit : ∀ digits ∈ limit, (Nat.toDigits 10 n.natAbs).length ≤ digits) {rest : List Char}
    (hrest : EndsValue rest) :
    readScalar limit (writeNumber (.whole n) ++ rest) = some (int n, rest) := by
  have hdigits : BeginsWithDigit (Nat.toDigits 10 n.natAbs) := by
    cases hcons : Nat.toDigits 10 n.natAbs with
    | nil => exact absurd hcons Nat.toDigits_ne_nil
    | cons c tail => exact ⟨c, tail, rfl, isDigit_of_mem_toDigits (hcons ▸ List.mem_cons_self)⟩
  have hread := readScalar_of_digits hdigits limit (n < 0) rest
  have hvalue : (if decide (n < 0) = true then -(n.natAbs : Int) else n.natAbs) = n := by
    simp only [decide_eq_true_eq]
    split <;> omega
  rw [readNumber_toDigits hlimit _ hrest, hvalue] at hread
  simpa only [writeNumber_whole, decide_eq_true_eq] using hread

theorem beginsWithDigit_chars {w : Written} (h : w.IsProper) : BeginsWithDigit w.chars := by
  obtain ⟨c, tail, hwhole, hc⟩ := beginsWithDigit_of_isLeading h.whole
  refine ⟨c, tail ++ (fractionChars w.fraction ++ exponentChars w.exponent), ?_, hc⟩
  rw [Written.chars, hwhole, List.cons_append]

theorem shortestDigits_ne_zero {x : Binary64} (hfinite : x.isFinite = true) (h : x.magnitude ≠ 0) :
    (shortestDigits x).digits ≠ 0 := by
  intro hzero
  have hread := ofDecimal_shortestDigits hfinite
  rw [hzero, Binary64.ofDecimal_zero] at hread
  rw [← hread] at h
  exact h (Nat.zero_mul _)

/-- The text of a finite value is read back to it. -/
theorem writes_shortestDigits {x : Binary64} (h : x.isFinite = true) :
    Writes (shortestDigits x).text (shortestDigits x).digits (shortestDigits x).exponent := by
  by_cases hzero : x.magnitude = 0
  · have hdigits : shortestDigits x = ⟨0, 0⟩ := if_pos hzero
    rw [hdigits]
    exact writes_text_zero
  · exact writes_text (shortestDigits_ne_zero h hzero)

theorem readScalar_writeNumber_finite {x : Binary64} (h : x.isFinite = true) (limit : DigitLimit)
    {rest : List Char} (hrest : EndsValue rest) :
    readScalar limit (writeNumber (.real x) ++ rest) = some (real x, rest) := by
  obtain ⟨w, hproper, hchars, hvalue⟩ := writes_shortestDigits h
  rw [writeNumber_finite h, hchars, readScalar_of_digits (beginsWithDigit_chars hproper),
    readNumber_chars hproper limit _ hrest, hvalue, ofDecimal_shortestDigits h]

theorem readScalar_writeNumber {limit : DigitLimit} {n : Number}
    (hlimit : ∀ digits ∈ limit, (number n).fits digits = true) {rest : List Char} (hrest : EndsValue rest) :
    readScalar limit (writeNumber n ++ rest) = some (number n, rest) := by
  cases n with
  | whole n =>
    refine readScalar_writeNumber_whole (fun digits hdigits => ?_) hrest
    simpa [fits] using hlimit digits hdigits
  | real x =>
    cases x with
    | nan => rfl
    | infinity negative => cases negative <;> rfl
    | finite negative significand scale hcanonical => exact readScalar_writeNumber_finite rfl limit hrest

end TenderQuery.Json
