import TenderQuery.Decimal.Shortest
import TenderQuery.Proofs.Decimal.Rounding

/-!
# Shortest digits are read back

Every finite value is the rounding of its own exact expansion (`nearestAt_canonical`), so the search for its
shortest digits ends with digits that are read back to it (`ofDecimal_shortestDigits`).
-/
set_option autoImplicit false
namespace TenderQuery.Decimal
open Binary64

theorem scaleOf_of_canonical {significand scale : Nat} (h : Canonical significand scale) :
    scaleOf (significand * Nat.pow 2 scale) = scale := by
  obtain ⟨-, hlt, hscale⟩ := h
  rw [Nat.pow_eq] at hlt hscale ⊢
  by_cases hzero : scale = 0
  · subst hzero
    unfold scaleOf
    rw [Nat.pow_zero, Nat.mul_one, if_pos hlt]
  · have hle : 2 ^ 52 ≤ significand := hscale.resolve_left hzero
    have hlog : (significand * 2 ^ scale).log2 = 52 + scale := by
      have hpositive : significand * 2 ^ scale ≠ 0 :=
        Nat.mul_ne_zero (by omega) (Nat.pos_iff_ne_zero.mp (Nat.two_pow_pos scale))
      rw [Nat.log2_eq_iff hpositive, Nat.pow_add, Nat.add_right_comm, Nat.pow_add]
      exact ⟨Nat.mul_le_mul_right _ hle, Nat.mul_lt_mul_of_pos_right hlt (Nat.two_pow_pos scale)⟩
    have hlarge : ¬significand * 2 ^ scale < Nat.pow 2 53 := by
      have hdouble : 2 ^ 1 ≤ 2 ^ scale := Nat.pow_le_pow_right (by decide) (by omega)
      have hmul : 2 ^ 52 * 2 ^ 1 ≤ significand * 2 ^ scale := Nat.mul_le_mul hle hdouble
      rw [Nat.pow_eq]
      omega
    unfold scaleOf
    rw [if_neg hlarge, hlog]
    omega

theorem ofParts_of_canonical {significand scale : Nat} (h : Canonical significand scale) (negative : Bool) :
    ofParts negative significand scale = finite negative significand scale h := by
  unfold ofParts
  rw [dif_pos h]

/-- A finite value is nearest to itself. -/
theorem nearestAt_canonical {significand scale : Nat} (h : Canonical significand scale) (bits : Nat)
    (negative : Bool) :
    nearestAt bits negative (significand * Nat.pow 2 scale) (Nat.pow 2 bits) =
      finite negative significand scale h := by
  have hunit : 0 < Nat.pow 2 bits := Nat.two_pow_pos bits
  have hvalue : significand * Nat.pow 2 scale * Nat.pow 2 bits =
      significand * (Nat.pow 2 bits * Nat.pow 2 scale) := by
    rw [Nat.mul_assoc, Nat.mul_comm (Nat.pow 2 scale)]
  have hround : divHalfEven (significand * Nat.pow 2 scale * Nat.pow 2 bits)
      (Nat.pow 2 bits * Nat.pow 2 scale) = significand := by
    rw [hvalue]
    exact divHalfEven_of_dvd (Nat.mul_pos hunit (Nat.two_pow_pos scale)) significand
  have hne : significand ≠ Nat.pow 2 53 := Nat.ne_of_lt h.2.1
  unfold nearestAt
  simp only [Nat.mul_div_cancel _ hunit, scaleOf_of_canonical h, hround]
  rw [if_neg hne]
  exact ofParts_of_canonical h negative

/-- The smallest value is 2 ^ -`bits`, and `bits` decimal places hold every value exactly. -/
theorem exists_exactDigits_eq : ∃ bits, nearest = nearestAt bits ∧
    ∀ magnitude, exactDigits magnitude = ⟨magnitude * Nat.pow 5 bits, -(bits : Int)⟩ := by
  refine ⟨1074, nearest_eq_nearestAt, fun magnitude => ?_⟩
  unfold exactDigits
  generalize hbits : 1074 = bits
  have hexponent : (-1074 : Int) = -(bits : Int) := by omega
  rw [hexponent]

/-- The exact expansion of a finite value is read back to it. -/
theorem ofDecimal_exactDigits {x : Binary64} (h : x.isFinite = true) :
    ofDecimal x.isNegative (exactDigits x.magnitude).digits (exactDigits x.magnitude).exponent = x := by
  cases x with
  | nan => cases h
  | infinity negative => cases h
  | finite negative significand scale hcanonical =>
    obtain ⟨bits, hnearest, hexact⟩ := exists_exactDigits_eq
    have hwhole : (-(bits : Int)).toNat = 0 := by omega
    have hpoint : (- -(bits : Int)).toNat = bits := by omega
    have hten : Nat.pow 10 bits = Nat.pow 2 bits * Nat.pow 5 bits := Nat.mul_pow 2 5 bits
    have hfive : 0 < Nat.pow 5 bits := Nat.pow_pos (by decide)
    have hone : ∀ n, n * Nat.pow 10 0 = n := Nat.mul_one
    rw [hexact, ofDecimal_eq_nearest, hwhole, hpoint, hone, hten, hnearest]
    dsimp only
    rw [nearestAt_mul hfive]
    exact nearestAt_canonical hcanonical bits negative

theorem ofDecimal_shortestFrom {x : Binary64} {exact : Scaled}
    (h : ofDecimal x.isNegative exact.digits exact.exponent = x) (size remaining : Nat) :
    ofDecimal x.isNegative (shortestFrom x exact size remaining).digits
      (shortestFrom x exact size remaining).exponent = x := by
  induction remaining with
  | zero => exact h
  | succ remaining ih =>
    unfold shortestFrom
    dsimp only
    split
    · rename_i s hfound
      have hreads := List.find?_some hfound
      exact eq_of_beq hreads
    · exact ih

theorem shortestDigits_of_magnitude {x : Binary64} (h : x.magnitude ≠ 0) :
    shortestDigits x = shortestFrom x (exactDigits x.magnitude)
      (Nat.toDigits 10 (exactDigits x.magnitude).digits).length 17 := by
  unfold shortestDigits
  rw [if_neg h]

theorem eq_zero_of_magnitude {x : Binary64} (hfinite : x.isFinite = true) (h : x.magnitude = 0) :
    x = zero x.isNegative := by
  cases x with
  | nan => cases hfinite
  | infinity negative => cases hfinite
  | finite negative significand scale hcanonical =>
    have hpow : Nat.pow 2 scale ≠ 0 := Nat.pos_iff_ne_zero.mp (Nat.two_pow_pos scale)
    have hsignificand : significand = 0 := (Nat.mul_eq_zero.mp h).resolve_right hpow
    have hscale : scale = 0 := by
      refine hcanonical.2.2.resolve_right fun hle => ?_
      rw [hsignificand] at hle
      exact absurd hle (by decide)
    subst hsignificand hscale
    rfl

/-- The shortest digits of a finite value are read back to it. -/
theorem ofDecimal_shortestDigits {x : Binary64} (h : x.isFinite = true) :
    ofDecimal x.isNegative (shortestDigits x).digits (shortestDigits x).exponent = x := by
  by_cases hzero : x.magnitude = 0
  · have hdigits : shortestDigits x = ⟨0, 0⟩ := if_pos hzero
    rw [hdigits]
    exact (eq_zero_of_magnitude h hzero).symm
  · rw [shortestDigits_of_magnitude hzero]
    exact ofDecimal_shortestFrom (ofDecimal_exactDigits h) _ _

end TenderQuery.Decimal
