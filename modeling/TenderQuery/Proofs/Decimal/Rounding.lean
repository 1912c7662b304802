import TenderQuery.Decimal.Binary64

/-!
# Rounding a decimal number

`Binary64.ofDecimal` rounds the quotient that a decimal number is, whatever its exponent: where it settles an
exponent first, the rounding comes to the same (`ofDecimal_eq_nearest`). Rounding only sees the value of a
quotient, so it does not matter how many zeros a decimal number is written with (`ofDecimal_mul_pow`).
-/
set_option autoImplicit false
namespace TenderQuery.Decimal

/-! ## Quotients -/

theorem divHalfEven_mul {k : Nat} (hk : 0 < k) (num den : Nat) :
    divHalfEven (num * k) (den * k) = divHalfEven num den := by
  have hgt : 2 * (num % den * k) > den * k ↔ 2 * (num % den) > den := by
    rw [← Nat.mul_assoc]
    exact Nat.mul_lt_mul_right hk
  have heq : 2 * (num % den * k) = den * k ↔ 2 * (num % den) = den := by
    rw [← Nat.mul_assoc]
    exact Nat.mul_right_cancel_iff hk
  unfold divHalfEven
  simp only [Nat.mul_div_mul_right _ _ hk, Nat.mul_mod_mul_right, hgt, Bool.or_eq_true, Bool.and_eq_true,
    beq_iff_eq, heq]

theorem divHalfEven_of_dvd {den : Nat} (hden : 0 < den) (n : Nat) : divHalfEven (n * den) den = n := by
  have hne : ¬0 = den := by omega
  simp [divHalfEven, Nat.mul_div_cancel _ hden, hne]

theorem divHalfEven_of_lt {num den : Nat} (h : 2 * num < den) : divHalfEven num den = 0 := by
  have hdiv : num / den = 0 := Nat.div_eq_of_lt (by omega)
  have hmod : num % den = num := Nat.mod_eq_of_lt (by omega)
  have hle : ¬den < 2 * num := by omega
  simp [divHalfEven, hdiv, hmod, hle]

namespace Binary64

/-- The value nearest to `num / den`, with 2 ^ -`bits` for the smallest one. -/
def nearestAt (bits : Nat) (negative : Bool) (num den : Nat) : Binary64 :=
  let units := num * Nat.pow 2 bits
  let scale := scaleOf (units / den)
  let significand := divHalfEven units (den * Nat.pow 2 scale)
  if significand = Nat.pow 2 53 then ofParts negative (Nat.pow 2 52) (scale + 1)
  else ofParts negative significand scale

theorem nearest_eq_nearestAt : nearest = nearestAt 1074 := by
  -- With a variable in its place, the exponent keeps the power from being evaluated.
  unfold nearest
  generalize 1074 = bits
  rfl

theorem nearestAt_mul {k : Nat} (hk : 0 < k) (bits : Nat) (negative : Bool) (num den : Nat) :
    nearestAt bits negative (num * k) (den * k) = nearestAt bits negative num den := by
  unfold nearestAt
  rw [Nat.mul_right_comm num k]
  simp only [Nat.mul_div_mul_right _ _ hk]
  rw [Nat.mul_right_comm den k, divHalfEven_mul hk]

/-- Equal quotients are rounded to the same value. -/
theorem nearest_congr {num den num' den' : Nat} (hden : 0 < den) (hden' : 0 < den')
    (h : num * den' = num' * den) (negative : Bool) : nearest negative num den = nearest negative num' den' := by
  rw [nearest_eq_nearestAt]
  calc nearestAt 1074 negative num den
      = nearestAt 1074 negative (num * den') (den * den') := (nearestAt_mul hden' 1074 negative num den).symm
    _ = nearestAt 1074 negative (num' * den) (den' * den) := by rw [h, Nat.mul_comm den]
    _ = nearestAt 1074 negative num' den' := nearestAt_mul hden 1074 negative num' den'

/-! ## Values too small and too large -/

/-- Less than half of the smallest value is rounded to zero. -/
theorem nearestAt_of_small {bits num den : Nat} (h : 2 * (num * Nat.pow 2 bits) < den) (negative : Bool) :
    nearestAt bits negative num den = zero negative := by
  have hdiv : num * Nat.pow 2 bits / den = 0 := Nat.div_eq_of_lt (by omega)
  have hscale : scaleOf 0 = 0 := rfl
  have hone : den * Nat.pow 2 0 = den := Nat.mul_one den
  unfold nearestAt
  simp only [hdiv, hscale]
  rw [hone, divHalfEven_of_lt h]
  rfl

theorem ofParts_of_scale {scale : Nat} (h : 2045 < scale) (negative : Bool) (significand : Nat) :
    ofParts negative significand scale = infinity negative := by
  unfold ofParts
  rw [dif_neg]
  exact fun hcanonical => absurd hcanonical.1 (by omega)

theorem scaleOf_of_le {units bits : Nat} (h : Nat.pow 2 bits ≤ units) (hbits : 53 ≤ bits) :
    bits - 52 ≤ scaleOf units := by
  have hpositive : 0 < Nat.pow 2 bits := Nat.two_pow_pos bits
  have hlog : bits ≤ units.log2 := (Nat.le_log2 (by omega)).mpr h
  have hlarge : ¬units < Nat.pow 2 53 := Nat.not_lt.mpr (Nat.le_trans (Nat.pow_le_pow_right (by decide) hbits) h)
  unfold scaleOf
  rw [if_neg hlarge]
  omega

/-- From 2 ^ 2098 times the smallest value on, numbers are rounded to infinity. -/
theorem nearestAt_of_large {bits units num : Nat} (h : Nat.pow 2 units ≤ num * Nat.pow 2 bits)
    (hunits : 2098 ≤ units) (negative : Bool) : nearestAt bits negative num 1 = infinity negative := by
  have hscale := scaleOf_of_le h (by omega)
  unfold nearestAt
  simp only [Nat.div_one]
  split
  · exact ofParts_of_scale (by omega) _ _
  · exact ofParts_of_scale (by omega) _ _

/-! ## Decimal numbers -/

theorem nearestAt_zero {den : Nat} (h : 0 < den) (bits : Nat) (negative : Bool) :
    nearestAt bits negative 0 den = zero negative :=
  nearestAt_of_small (by rw [Nat.zero_mul]; exact h) negative

/-- A number this far below one is less than half of the smallest value. -/
theorem small_of_exponent {digits bits k : Nat} (h : digits.log2 + bits + 2 ≤ k) :
    2 * (digits * Nat.pow 2 bits) < Nat.pow 10 k :=
  calc 2 * (digits * 2 ^ bits) < 2 * (2 ^ (digits.log2 + 1) * 2 ^ bits) :=
        Nat.mul_lt_mul_of_pos_left (Nat.mul_lt_mul_of_pos_right Nat.lt_log2_self (Nat.two_pow_pos bits))
          (by decide)
    _ = 2 ^ (digits.log2 + 1 + bits + 1) := by rw [← Nat.pow_add, Nat.mul_comm, ← Nat.pow_succ]
    _ ≤ 2 ^ k := Nat.pow_le_pow_right (by decide) (by omega)
    _ ≤ 10 ^ k := Nat.pow_le_pow_left (by decide) k

theorem large_of_exponent {digits : Nat} (h : digits ≠ 0) (bits k : Nat) :
    Nat.pow 2 (3 * k + bits) ≤ digits * Nat.pow 10 k * Nat.pow 2 bits :=
  calc 2 ^ (3 * k + bits) = (2 ^ 3) ^ k * 2 ^ bits := by rw [Nat.pow_add, Nat.pow_mul]
    _ ≤ 10 ^ k * 2 ^ bits := Nat.mul_le_mul_right _ (Nat.pow_le_pow_left (by decide) k)
    _ ≤ digits * 10 ^ k * 2 ^ bits :=
        Nat.mul_le_mul_right _ (Nat.le_mul_of_pos_left _ (Nat.pos_of_ne_zero h))

theorem ofDecimal_zero (negative : Bool) (exponent : Int) : ofDecimal negative 0 exponent = zero negative :=
  if_pos rfl

/-- A decimal number is rounded as the quotient that it is. -/
theorem ofDecimal_eq_nearest (negative : Bool) (digits : Nat) (exponent : Int) :
    ofDecimal negative digits exponent =
      nearest negative (digits * Nat.pow 10 exponent.toNat) (Nat.pow 10 (-exponent).toNat) := by
  have hone : digits * Nat.pow 10 0 = digits := Nat.mul_one digits
  have hdenOne : Nat.pow 10 0 = 1 := rfl
  have hden : 0 < Nat.pow 10 (-exponent).toNat := Nat.pow_pos (by decide)
  unfold ofDecimal
  rw [nearest_eq_nearestAt]
  split
  · rename_i hzero
    rw [hzero, Nat.zero_mul, nearestAt_zero hden]
  · rename_i hzero
    split
    · rename_i hlarge
      have hnat : (-exponent).toNat = 0 := by omega
      have hunits : 2098 ≤ 3 * exponent.toNat + 1074 := by omega
      rw [hnat, hdenOne, nearestAt_of_large (large_of_exponent hzero 1074 exponent.toNat) hunits]
    · split
      · rename_i hsmall
        have hnat : exponent.toNat = 0 := by omega
        have hbits : digits.log2 + 1074 + 2 ≤ (-exponent).toNat := by omega
        rw [hnat, hone, nearestAt_of_small (small_of_exponent hbits)]
      · split
        · rename_i hnonneg
          have hnat : (-exponent).toNat = 0 := by omega
          rw [hnat]
        · rename_i hneg
          have hnat : exponent.toNat = 0 := by omega
          rw [hnat, hone]

/-- Zeros at the end of the digits of a decimal number can be moved to its exponent. -/
theorem ofDecimal_mul_pow (negative : Bool) (digits zeros : Nat) (exponent : Int) :
    ofDecimal negative (digits * Nat.pow 10 zeros) exponent = ofDecimal negative digits (exponent + zeros) := by
  have hden : ∀ k, 0 < Nat.pow 10 k := fun k => Nat.pow_pos (by decide)
  have hexponent : zeros + exponent.toNat + (-(exponent + zeros)).toNat =
      (exponent + zeros).toNat + (-exponent).toNat := by omega
  rw [ofDecimal_eq_nearest, ofDecimal_eq_nearest]
  refine nearest_congr (hden _) (hden _) ?_ negative
  simp only [Nat.pow_eq, Nat.mul_assoc, ← Nat.pow_add]
  rw [hexponent]

end Binary64

end TenderQuery.Decimal
