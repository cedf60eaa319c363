/-
`Proofs/Double/Interval.lean` -- the numbers that are rounded to one double.

They lie in an interval around it. Upwards it goes half a unit, to the middle between the
double and the next one, and downwards as well, with one exception: below a power of two the
unit is half as large, and the interval reaches down only half as far (`reach`). The ends are
rounded to the even one of two mantissas, so they belong to a double whose own is even.

The exception is also the one place where a number in the interval is not counted in the
units of the double: below the power of two it has half the unit and twice as many of them
(`RoundsTo.roundedMagnitude_of_below`).
-/
import FlowTriad.Proofs.Double.Mantissa

set_option autoImplicit false

namespace FlowTriad.Double

variable {m : ℕ} {e : ℤ} {x : ℚ}

/-- How far the interval of a double reaches down, in its units. -/
def reach (m : ℕ) (e : ℤ) : ℚ :=
  if m = 2 ^ 52 ∧ -1074 < e then 1 / 4 else 1 / 2

theorem reach_le (m : ℕ) (e : ℤ) : reach m e ≤ 1 / 2 := by
  unfold reach
  split_ifs <;> norm_num

/-- **The interval of a double** with a certain mantissa and exponent. -/
structure RoundsTo (m : ℕ) (e : ℤ) (x : ℚ) : Prop where
  lower : (m - reach m e) * 2 ^ e ≤ x
  upper : x ≤ (m + 1 / 2) * 2 ^ e
  even : x = (m - reach m e) * 2 ^ e ∨ x = (m + 1 / 2) * 2 ^ e → m % 2 = 0

/-- What is nearer to a double than its interval reaches is inside. -/
theorem roundsTo_of_abs_lt (h : |x - m * 2 ^ e| < reach m e * 2 ^ e) : RoundsTo m e x := by
  obtain ⟨hlower, hupper⟩ := abs_lt.1 h
  have hhalf : reach m e * 2 ^ e ≤ 1 / 2 * 2 ^ e :=
    mul_le_mul_of_nonneg_right (reach_le m e) (two_zpow_pos e).le
  have hbelow : (m - reach m e) * 2 ^ e < x := by
    rw [sub_mul]
    linarith only [hlower]
  have habove : x < (m + 1 / 2) * 2 ^ e := by
    rw [add_mul]
    linarith only [hupper, hhalf]
  refine ⟨hbelow.le, habove.le, ?_⟩
  rintro (rfl | rfl)
  · exact absurd hbelow (lt_irrefl _)
  · exact absurd habove (lt_irrefl _)

/-- In the units of the double, the nearest number of them is its mantissa. -/
theorem RoundsTo.roundedMagnitude_of_unit (h : RoundsTo m e x) (hunit : unitExponent x = e) :
    roundedMagnitude x = m * 2 ^ e := by
  have hpos := two_zpow_pos e
  have hlower : (m : ℚ) - reach m e ≤ x / 2 ^ e := (le_div_iff₀ hpos).2 h.lower
  have hupper : x / 2 ^ e ≤ m + 1 / 2 := (div_le_iff₀ hpos).2 h.upper
  have hreach := reach_le m e
  have hnear : nearestEven (x / 2 ^ e) = (m : ℤ) := by
    apply nearestEven_eq_of_near
    · push_cast
      linarith only [hlower, hreach]
    · exact_mod_cast hupper
    · rintro (hlow | hhigh)
      · -- so low it can only be the end of an interval that reaches down half a unit
        push_cast at hlow
        have hend : x / 2 ^ e = m - reach m e := by linarith only [hlow, hlower, hreach]
        have heven := h.even (.inl ((div_eq_iff hpos.ne').1 hend))
        omega
      · push_cast at hhigh
        have heven := h.even (.inr ((div_eq_iff hpos.ne').1 hhigh))
        omega
  unfold roundedMagnitude
  rw [hunit, hnear, Int.cast_natCast]

/-- Below a power of two a number has half the unit, and is rounded to twice as many. -/
theorem RoundsTo.roundedMagnitude_of_below (h : RoundsTo (2 ^ 52) e x) (he : -1074 < e)
    (hx : x < 2 ^ (e + 52)) : roundedMagnitude x = (2 ^ 52 : ℕ) * 2 ^ e := by
  have hpos := two_zpow_pos (e - 1)
  have hdouble : (2 : ℚ) ^ e = 2 * 2 ^ (e - 1) := by
    rw [← zpow_one_add₀ (by norm_num)]
    congr 1
    omega
  have hreach : reach (2 ^ 52) e = 1 / 4 := if_pos ⟨rfl, he⟩
  have hlower : ((2 ^ 53 : ℤ) : ℚ) - 1 / 2 ≤ x / 2 ^ (e - 1) := by
    have hlower := h.lower
    rw [hreach, hdouble] at hlower
    rw [le_div_iff₀ hpos]
    push_cast at hlower ⊢
    linarith only [hlower]
  have hupper : x / 2 ^ (e - 1) < ((2 ^ 53 : ℤ) : ℚ) := by
    rw [div_lt_iff₀ hpos, ← two_zpow_eq_units, show e - 1 + (53 : ℕ) = e + 52 by norm_num; ring]
    exact hx
  have hunit : unitExponent x = e - 1 := by
    apply le_antisymm
    · refine unitExponent_le ?_ (by omega) ?_
      · by_contra hneg
        have hnonpos : x / 2 ^ (e - 1) ≤ 0 := div_nonpos_of_nonpos_of_nonneg (not_lt.1 hneg) hpos.le
        push_cast at hlower
        linarith only [hlower, hnonpos]
      · rw [show e - 1 + 53 = e + 52 by ring]
        exact hx
    · apply le_unitExponent
      rw [show e - 1 + 52 = e - 1 + (52 : ℕ) by norm_num, two_zpow_eq_units, ← le_div_iff₀ hpos]
      push_cast at hlower ⊢
      linarith only [hlower]
  have hnear : nearestEven (x / 2 ^ (e - 1)) = 2 ^ 53 :=
    nearestEven_eq_of_near hlower (by linarith only [hupper]) fun _ => by norm_num
  unfold roundedMagnitude
  rw [hunit, hnear, hdouble]
  push_cast
  ring

/-- **A number in the interval of a double is rounded to it.** -/
theorem RoundsTo.roundedMagnitude_eq (h : RoundsTo m e x) (hcanonical : Canonical m e)
    (hm : 0 < m) : roundedMagnitude x = m * 2 ^ e := by
  have hpos := two_zpow_pos e
  have hreach := reach_le m e
  have hone : (1 : ℚ) ≤ m := by exact_mod_cast hm
  have hx : 0 < x := (mul_pos (by linarith only [hreach, hone]) hpos).trans_le h.lower
  have hlong : (m : ℚ) + 1 ≤ ((2 ^ 53 : ℤ) : ℚ) := by exact_mod_cast hcanonical.lt_two_pow
  have hupper : x < 2 ^ (e + 53) := by
    rw [show e + 53 = e + (53 : ℕ) by norm_num, two_zpow_eq_units]
    refine h.upper.trans_lt (mul_lt_mul_of_pos_right ?_ hpos)
    push_cast at hlong ⊢
    linarith only [hlong]
  have hunit := unitExponent_le hx hcanonical.least_le hupper
  rcases hcanonical.least_le.eq_or_lt with rfl | he
  · exact h.roundedMagnitude_of_unit (hunit.antisymm (least_le_unitExponent x))
  · by_cases hbelow : x < 2 ^ (e + 52)
    · -- only the least mantissa has an interval that goes below
      have hleast : m = 2 ^ 52 := by
        refine le_antisymm (not_lt.1 fun hlt => ?_) (hcanonical.two_pow_le he)
        have hcast : ((2 ^ 52 : ℤ) : ℚ) + 1 ≤ m := by exact_mod_cast hlt
        rw [show e + 52 = e + (52 : ℕ) by norm_num, two_zpow_eq_units] at hbelow
        have hlower := h.lower.trans_lt hbelow
        rw [mul_lt_mul_iff_left₀ hpos] at hlower
        linarith only [hlower, hcast, hreach]
      subst hleast
      exact h.roundedMagnitude_of_below he hbelow
    · exact h.roundedMagnitude_of_unit (hunit.antisymm (le_unitExponent (not_lt.1 hbelow)))

end FlowTriad.Double
