/-
`Proofs/Double/Nearest.lean` -- the whole number nearest to a double.

A double is rounded to a whole number, a half going away from zero, and held within 64
bits. For doubles that are not negative, infinity included, that is the floor of their
place in the order and a half, or the greatest number there is (`toInt64_eq`). So the
whole number follows the order of doubles, and what is known of a double's place is all
that is needed of it.
-/
import FlowTriad.Proofs.Double.Finite

set_option autoImplicit false

namespace FlowTriad.Double

open Decimal (Ratio)

/-! ## 1. Fractions -/

/-- The number that a fraction is. -/
def ratioValue (r : Ratio) : ℚ :=
  (r.num : ℚ) / r.den

theorem ratioValue_ofBinary (m : ℕ) (q : ℤ) : ratioValue (.ofBinary m q) = m * 2 ^ q := by
  unfold ratioValue Ratio.ofBinary
  cases q with
  | ofNat k =>
    show ((m * 2 ^ k : ℕ) : ℚ) / (1 : ℕ) = m * 2 ^ (k : ℤ)
    rw [Nat.cast_one, div_one, zpow_natCast]
    push_cast
    rfl
  | negSucc k =>
    show (m : ℚ) / ((2 ^ (k + 1) : ℕ) : ℚ) = m * 2 ^ Int.negSucc k
    rw [zpow_negSucc, Nat.cast_pow, Nat.cast_ofNat, div_eq_mul_inv]

/-- Rounding a half up is a floor. -/
theorem roundUp_eq_floor (r : Ratio) : (r.roundUp : ℤ) = ⌊ratioValue r + 1 / 2⌋ := by
  have hden : (r.den : ℚ) ≠ 0 := by exact_mod_cast r.den_pos.ne'
  have hhalf : ratioValue r + 1 / 2 = ((2 * r.num + r.den : ℕ) : ℚ) / ((2 * r.den : ℕ) : ℚ) := by
    unfold ratioValue
    push_cast
    field_simp
  rw [hhalf, Rat.floor_natCast_div_natCast]
  rfl

/-! ## 2. Doubles -/

variable {a b : Float} {p q : ℚ}

/-- The whole number nearest to a number that is not negative, within 64 bits. -/
def nearestInt64 (p : ℚ) : ℤ :=
  min ⌊p + 1 / 2⌋ Whole.greatest

theorem nearestInt64_mono (h : p ≤ q) : nearestInt64 p ≤ nearestInt64 q :=
  min_le_min (Int.floor_le_floor (by linarith)) le_rfl

theorem nearestInt64_nonneg (h : 0 ≤ p) : 0 ≤ nearestInt64 p := by
  have hfloor : 0 ≤ ⌊p + 1 / 2⌋ := Int.floor_nonneg.2 (by linarith)
  exact le_min hfloor (by decide)

/-- **The whole number of a double** that is not negative is the one nearest to its place in
the order. -/
theorem toInt64_eq (ha : HasRank a p) (hp : 0 ≤ p) : Decimal.toInt64 a = nearestInt64 p := by
  have hlimit : (0 : ℚ) < 2 ^ (1024 : ℤ) := two_zpow_pos _
  unfold Decimal.toInt64 nearestInt64
  cases hparts : Decimal.Parts.of a with
  | nan => exact absurd hparts (parts_ne_nan ha)
  | infinite negative =>
    obtain rfl := ha.eq (hasRank_of_parts hparts)
    cases negative with
    | true => exact absurd hp (neg_lt_zero.2 hlimit).not_ge
    | false =>
      -- the place of infinity is beyond all numbers of 64 bits
      refine (min_eq_right (Int.le_floor.2 ?_)).symm
      calc ((Whole.greatest : ℤ) : ℚ) ≤ 2 ^ (63 : ℤ) := by norm_num [Whole.greatest]
        _ ≤ 2 ^ (1024 : ℤ) := zpow_le_zpow_right₀ (by norm_num) (by norm_num)
        _ ≤ 2 ^ (1024 : ℤ) + 1 / 2 := le_add_of_nonneg_right (by norm_num)
  | finite negative m k =>
    obtain rfl := ha.eq (hasValue_of_parts hparts).hasRank
    simp only [roundUp_eq_floor, ratioValue_ofBinary]
    cases negative with
    | true =>
      -- a negative number that is not below zero is a zero with a sign
      have hzero : (m : ℚ) * 2 ^ k = 0 := by
        have hnonneg : 0 ≤ (m : ℚ) * 2 ^ k := mul_nonneg (Nat.cast_nonneg m) (two_zpow_pos k).le
        have hnonpos : 0 ≤ -((m : ℚ) * 2 ^ k) := hp
        linarith
      rw [if_pos rfl, hzero, signed_zero]
      decide +kernel
    | false =>
      rw [if_neg (by decide)]
      rfl

end FlowTriad.Double
