/-
`Proofs/Decimal/Numeral.lean` -- the double that a numeral is read as.

A numeral denotes a number, and it is read as the double nearest to it
(`Numeral.hasValue_nearest`). Numerals that are out of range are recognised by the place of
their first digit before any double is made. That changes nothing: the numbers so small are
rounded to zero, and those so large are beyond all doubles.
-/
import FlowTriad.Decimal.Numeral
import FlowTriad.Decimal.Shortest
import FlowTriad.Proofs.Double.Scientific

set_option autoImplicit false

namespace FlowTriad.Decimal

open Double

/-! ## 1. The place of the first digit -/

variable {n : ℕ} {k : ℤ}

theorem digitCount_pos (n : ℕ) : 0 < digitCount n :=
  Nat.length_toDigits_pos

theorem lt_ten_pow_digitCount (n : ℕ) : n < 10 ^ digitCount n :=
  (Nat.length_toDigits_le_iff (by decide) (digitCount_pos n)).1 le_rfl

theorem ten_pow_digitCount_le (hn : 0 < n) : 10 ^ (digitCount n - 1) ≤ n := by
  obtain hone | hmore : digitCount n ≤ 1 ∨ 1 < digitCount n := by omega
  · rw [Nat.sub_eq_zero_of_le hone, pow_zero]
    exact hn
  · by_contra hlt
    have hle := (Nat.length_toDigits_le_iff (b := 10) (by decide)
      (Nat.sub_pos_of_lt hmore)).2 (not_le.1 hlt)
    change digitCount n ≤ digitCount n - 1 at hle
    omega

theorem mul_lt_ten_zpow (n : ℕ) (k : ℤ) : (n : ℚ) * 10 ^ k < 10 ^ (digitCount n + k) := by
  have hlt : (n : ℚ) < ((10 ^ digitCount n : ℕ) : ℚ) := by
    exact_mod_cast lt_ten_pow_digitCount n
  rw [zpow_add₀ (by norm_num), zpow_natCast]
  refine mul_lt_mul_of_pos_right ?_ (ten_zpow_pos k)
  exact_mod_cast hlt

theorem ten_zpow_le_mul (hn : 0 < n) (k : ℤ) : (10 : ℚ) ^ (digitCount n + k - 1) ≤ n * 10 ^ k := by
  have hcount := digitCount_pos n
  have hle : ((10 ^ (digitCount n - 1) : ℕ) : ℚ) ≤ n := by exact_mod_cast ten_pow_digitCount_le hn
  rw [show (digitCount n : ℤ) + k - 1 = ((digitCount n - 1 : ℕ) : ℤ) + k by omega,
    zpow_add₀ (by norm_num), zpow_natCast]
  refine mul_le_mul_of_nonneg_right ?_ (ten_zpow_pos k).le
  exact_mod_cast hle

/-- Ten is more than three doublings. -/
theorem two_zpow_le_ten_zpow (j : ℕ) : (2 : ℚ) ^ (3 * (j : ℤ)) ≤ 10 ^ (j : ℤ) := by
  rw [zpow_mul, zpow_natCast, zpow_natCast]
  exact pow_le_pow_left₀ (by norm_num) (by norm_num) j

theorem ten_zpow_neg_le (j : ℕ) : (10 : ℚ) ^ (-(j : ℤ)) ≤ 2 ^ (-(3 * (j : ℤ))) := by
  rw [zpow_neg, zpow_neg]
  exact inv_anti₀ (two_zpow_pos _) (two_zpow_le_ten_zpow j)

/-- Numbers out of range by the place of their first digit are out of range. -/
theorem mul_ten_zpow_lt_of_small (h : (digitCount n : ℤ) + k < -400) :
    (n : ℚ) * 10 ^ k < 2 ^ (-1075 : ℤ) :=
  calc (n : ℚ) * 10 ^ k < 10 ^ (digitCount n + k) := mul_lt_ten_zpow n k
    _ ≤ 10 ^ (-(400 : ℕ) : ℤ) := zpow_le_zpow_right₀ (by norm_num) (by omega)
    _ ≤ 2 ^ (-(3 * (400 : ℕ)) : ℤ) := ten_zpow_neg_le 400
    _ ≤ 2 ^ (-1075 : ℤ) := zpow_le_zpow_right₀ (by norm_num) (by norm_num)

theorem le_mul_ten_zpow_of_large (hn : 0 < n) (h : 400 < (digitCount n : ℤ) + k) :
    (2 : ℚ) ^ (1024 : ℤ) ≤ n * 10 ^ k :=
  calc (2 : ℚ) ^ (1024 : ℤ) ≤ 2 ^ (3 * (400 : ℕ) : ℤ) :=
        zpow_le_zpow_right₀ (by norm_num) (by norm_num)
    _ ≤ 10 ^ ((400 : ℕ) : ℤ) := two_zpow_le_ten_zpow 400
    _ ≤ 10 ^ (digitCount n + k - 1) := zpow_le_zpow_right₀ (by norm_num) (by omega)
    _ ≤ n * 10 ^ k := ten_zpow_le_mul hn k

/-! ## 2. Numerals -/

namespace Numeral

/-- The number without its sign. -/
def magnitude (n : Numeral) : ℚ :=
  valueOf (n.whole ++ n.fraction) * 10 ^ (n.exponent - n.fraction.length)

/-- **The number** that a numeral denotes. -/
def value (n : Numeral) : ℚ :=
  Double.signed (signOf n.negative) n.magnitude

theorem magnitude_nonneg (n : Numeral) : 0 ≤ n.magnitude :=
  mul_nonneg (Nat.cast_nonneg _) (ten_zpow_pos _).le

theorem hasValue_signed {a : Float} {p : ℚ} (n : Numeral) (ha : HasValue a p) :
    HasValue (n.signed a) (Double.signed (signOf n.negative) p) := by
  unfold Numeral.signed signOf
  cases n.negative with
  | false => exact ha
  | true => exact ha.neg

/-- **A numeral is read as the nearest double**, unless the number is out of range. -/
theorem hasValue_nearest (n : Numeral) (hlt : |rounded n.value| < 2 ^ (1024 : ℤ)) :
    HasValue n.nearest (rounded n.value) := by
  have hnonneg := n.magnitude_nonneg
  unfold value at hlt ⊢
  rw [rounded_signed _ hnonneg, abs_signed _ (roundedMagnitude_nonneg hnonneg)] at hlt
  rw [rounded_signed _ hnonneg]
  refine n.hasValue_signed ?_
  unfold magnitude at hlt hnonneg ⊢
  generalize valueOf (n.whole ++ n.fraction) = digits at hlt hnonneg ⊢
  generalize n.exponent - (n.fraction.length : ℤ) = e at hlt hnonneg ⊢
  change HasValue (if digits = 0 ∨ (digitCount digits : ℤ) + e < -400 then 0.0
    else if 400 < (digitCount digits : ℤ) + e then 1.0 / 0.0
    else Float.ofScientific digits (e < 0) e.natAbs) _
  obtain rfl | hpos := Nat.eq_zero_or_pos digits
  · rw [if_pos (.inl rfl), Nat.cast_zero, zero_mul, roundedMagnitude_zero]
    exact hasValue_zero
  by_cases hsmall : (digitCount digits : ℤ) + e < -400
  · -- a number this small is nothing when it is rounded
    rw [if_pos (.inr hsmall), roundedMagnitude_eq_zero hnonneg (mul_ten_zpow_lt_of_small hsmall)]
    exact hasValue_zero
  by_cases hlarge : 400 < (digitCount digits : ℤ) + e
  · -- a number this large is still beyond the limits when it is rounded
    have hrounded := rounded_mono (le_mul_ten_zpow_of_large hpos hlarge)
    rw [rounded_two_zpow (by norm_num), rounded_of_nonneg hnonneg] at hrounded
    exact absurd hlt hrounded.not_gt
  · -- the first digit is in range, and the exponent is not above it
    have hcount := digitCount_pos digits
    rw [if_neg (by omega), if_neg hlarge, ← rounded_of_nonneg hnonneg]
    apply hasValue_ofScientific digits (by omega)
    rwa [rounded_of_nonneg hnonneg, abs_of_nonneg (roundedMagnitude_nonneg hnonneg)]

end Numeral

end FlowTriad.Decimal
