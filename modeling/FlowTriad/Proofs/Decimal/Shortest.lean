/-
`Proofs/Decimal/Shortest.lean` -- the shortest decimal reads back.

Every decimal that is taken lies in the interval of its double: the candidates of up to sixteen
digits because they are tested for it (`roundsTo_of_contains`), and the one of seventeen digits
because that grid is fine enough. A grid of `10 ^ (e - 17)` has a point within half of that,
the number is not below `10 ^ (e - 1)`, and half of `10 ^ (-16)` of it is less than what the
interval reaches down, as a mantissa has 53 bits (`roundsTo_round`). Which of two equally near
decimals is taken makes no difference, and neither do the zeros that are cut off.
-/
import FlowTriad.Proofs.Decimal.Numeral
import FlowTriad.Proofs.Double.Interval
import FlowTriad.Proofs.Double.Nearest

set_option autoImplicit false

namespace FlowTriad.Decimal

open Double

variable {m a : ℕ} {q k : ℤ}

/-! ## 1. Fractions -/

theorem ratioValue_shift (r : Ratio) (k : ℤ) : ratioValue (r.shift k) = ratioValue r * 10 ^ k := by
  unfold ratioValue Ratio.shift
  cases k with
  | ofNat j =>
    show ((r.num * 10 ^ j : ℕ) : ℚ) / r.den = r.num / r.den * 10 ^ (j : ℤ)
    rw [zpow_natCast]
    push_cast
    ring
  | negSucc j =>
    show (r.num : ℚ) / ((r.den * 10 ^ (j + 1) : ℕ) : ℚ) = r.num / r.den * 10 ^ Int.negSucc j
    rw [zpow_negSucc]
    push_cast
    rw [div_mul_eq_div_div, div_eq_mul_inv _ ((10 : ℚ) ^ (j + 1))]

theorem Ratio.num_le_iff (r : Ratio) (a : ℕ) : r.num ≤ a * r.den ↔ ratioValue r ≤ a := by
  have hden : (0 : ℚ) < r.den := by exact_mod_cast r.den_pos
  unfold ratioValue
  rw [div_le_iff₀ hden]
  exact_mod_cast Iff.rfl

theorem Ratio.le_num_iff (r : Ratio) (a : ℕ) : a * r.den ≤ r.num ↔ (a : ℚ) ≤ ratioValue r := by
  have hden : (0 : ℚ) < r.den := by exact_mod_cast r.den_pos
  unfold ratioValue
  rw [le_div_iff₀ hden]
  exact_mod_cast Iff.rfl

theorem Ratio.num_lt_iff (r : Ratio) (a : ℕ) : r.num < a * r.den ↔ ratioValue r < a := by
  rw [← not_le, r.le_num_iff, not_le]

theorem Ratio.lt_num_iff (r : Ratio) (a : ℕ) : a * r.den < r.num ↔ (a : ℚ) < ratioValue r := by
  rw [← not_le, r.num_le_iff, not_le]

theorem Ratio.ten_zpow_neg_le (r : Ratio) {j : ℕ} (h : r.den ≤ 10 ^ j * r.num) :
    (10 : ℚ) ^ (-(j : ℤ)) ≤ ratioValue r := by
  have hden : (0 : ℚ) < r.den := by exact_mod_cast r.den_pos
  unfold ratioValue
  rw [le_div_iff₀ hden, zpow_neg, zpow_natCast, inv_mul_le_iff₀ (by positivity)]
  exact_mod_cast h

/-- The magnitude of a fraction tells a power of ten that is not above it. -/
theorem Ratio.ten_zpow_magnitude_le (r : Ratio) (hr : 0 < r.num) :
    (10 : ℚ) ^ (r.magnitude - 1) ≤ ratioValue r := by
  unfold Ratio.magnitude
  dsimp only
  split_ifs with hone hfits
  · -- the fraction is not below one, and has the digits of its whole part
    have hquotient : 0 < r.num / r.den := Nat.div_pos hone r.den_pos
    have hle := ten_zpow_le_mul hquotient 0
    rw [add_zero, zpow_zero, mul_one] at hle
    exact hle.trans ((r.le_num_iff _).1 (Nat.div_mul_le_self r.num r.den))
  · -- below one the digits of the reciprocal count, less one if it is no more than a power of ten
    generalize digitCount (r.den / r.num) - 1 = j at hfits ⊢
    rw [show (1 : ℤ) - j - 1 = -j by ring]
    exact r.ten_zpow_neg_le hfits
  · have hlt := (Nat.div_lt_iff_lt_mul hr).1 (lt_ten_pow_digitCount (r.den / r.num))
    obtain ⟨j, hj⟩ := Nat.exists_eq_add_one.2 (digitCount_pos (r.den / r.num))
    rw [hj] at hlt ⊢
    rw [Nat.add_sub_cancel, show -(j : ℤ) - 1 = -((j + 1 : ℕ) : ℤ) by push_cast; ring]
    exact r.ten_zpow_neg_le hlt.le

/-- The whole number nearest to a fraction is within one half of it. -/
theorem Tie.abs_round_sub_le (tie : Tie) (r : Ratio) :
    |(tie.round r : ℚ) - ratioValue r| ≤ 1 / 2 := by
  cases tie with
  | up =>
    have hfloor : (r.roundUp : ℚ) = ⌊ratioValue r + 1 / 2⌋ := by
      exact_mod_cast congrArg (Int.cast (R := ℚ)) (roundUp_eq_floor r)
    have hle := Int.floor_le (ratioValue r + 1 / 2)
    have hlt := Int.lt_floor_add_one (ratioValue r + 1 / 2)
    show |(r.roundUp : ℚ) - ratioValue r| ≤ 1 / 2
    rw [hfloor, abs_le]
    constructor <;> linarith only [hle, hlt]
  | even =>
    have hden : (0 : ℚ) < r.den := by exact_mod_cast r.den_pos
    have hdecomposed : (r.num : ℚ) = r.den * (r.num / r.den : ℕ) + (r.num % r.den : ℕ) := by
      exact_mod_cast (Nat.div_add_mod r.num r.den).symm
    have hvalue : ratioValue r = (r.num / r.den : ℕ) + (r.num % r.den : ℕ) / r.den := by
      unfold ratioValue
      rw [hdecomposed]
      field_simp
    have hless := Nat.mod_lt r.num r.den_pos
    show |(r.roundEven : ℚ) - ratioValue r| ≤ 1 / 2
    unfold Ratio.roundEven
    rw [hvalue]
    dsimp only
    generalize r.num / r.den = n
    generalize r.num % r.den = rest at hless ⊢
    -- the rest is compared with one half of the denominator
    have hnonneg : (0 : ℚ) ≤ rest / r.den := by positivity
    split_ifs with hlt hgt
    · have hhalf : (rest : ℚ) / r.den < 1 / 2 := by
        rw [div_lt_div_iff₀ hden two_pos]
        exact_mod_cast (by omega : rest * 2 < 1 * r.den)
      rw [abs_le]
      constructor <;> linarith only [hnonneg, hhalf]
    · have hhalf : 1 / 2 < (rest : ℚ) / r.den := by
        rw [div_lt_div_iff₀ two_pos hden]
        exact_mod_cast (by omega : 1 * r.den < rest * 2)
      have hone : (rest : ℚ) / r.den < 1 := by
        rw [div_lt_one hden]
        exact_mod_cast hless
      push_cast
      rw [abs_le]
      constructor <;> linarith only [hone, hhalf]
    · have hhalf : (rest : ℚ) / r.den = 1 / 2 := by
        rw [div_eq_div_iff hden.ne' two_ne_zero]
        exact_mod_cast (by omega : rest * 2 = 1 * r.den)
      rw [hhalf]
      obtain heven | hodd := Nat.mod_two_eq_zero_or_one n
      · rw [heven, add_zero, sub_add_cancel_left, abs_neg]
        norm_num
      · rw [hodd, Nat.cast_add, Nat.cast_one, add_sub_add_left_eq_sub]
        norm_num

/-! ## 2. Candidates -/

/-- The number that a decimal is. -/
def Scaled.value (s : Scaled) : ℚ :=
  s.digits * 10 ^ s.exponent

theorem ratioValue_shift_neg (r : Ratio) (k : ℤ) :
    ratioValue (r.shift (-k)) = ratioValue r / 10 ^ k := by
  rw [ratioValue_shift, zpow_neg, div_eq_mul_inv]

/-- What the test for an interval says. -/
theorem Interval.contains_iff (i : Interval) (a : ℕ) (k : ℤ) :
    i.contains a k ↔
      if i.closed then ratioValue i.low ≤ a * 10 ^ k ∧ a * 10 ^ k ≤ ratioValue i.high
      else ratioValue i.low < a * 10 ^ k ∧ a * 10 ^ k < ratioValue i.high := by
  have hpos := ten_zpow_pos k
  unfold Interval.contains
  cases i.closed with
  | true =>
    simp only [if_true, Bool.and_eq_true, decide_eq_true_eq]
    rw [Ratio.num_le_iff, Ratio.le_num_iff, ratioValue_shift_neg, ratioValue_shift_neg,
      div_le_iff₀ hpos, le_div_iff₀ hpos]
  | false =>
    simp only [Bool.false_eq_true, if_false, Bool.and_eq_true, decide_eq_true_eq]
    rw [Ratio.num_lt_iff, Ratio.lt_num_iff, ratioValue_shift_neg, ratioValue_shift_neg,
      div_lt_iff₀ hpos, lt_div_iff₀ hpos]

theorem two_zpow_eq_quarters (q : ℤ) : (2 : ℚ) ^ q = 4 * 2 ^ (q - 2) := by
  rw [zpow_sub₀ (by norm_num)]
  norm_num
  ring

theorem ratioValue_low (hm : 0 < m) (q : ℤ) :
    ratioValue (Interval.around m q).low = (m - reach m q) * 2 ^ q := by
  unfold Interval.around reach
  dsimp only
  rw [ratioValue_ofBinary, two_zpow_eq_quarters q]
  by_cases hleast : m = Whole.twoPow 52 ∧ -1074 < q
  · rw [if_pos hleast, if_pos (show m = 2 ^ 52 ∧ _ from hleast), Nat.cast_sub (by omega)]
    push_cast
    ring
  · rw [if_neg hleast, if_neg (show ¬ (m = 2 ^ 52 ∧ _) from hleast), Nat.cast_sub (by omega)]
    push_cast
    ring

theorem ratioValue_high (m : ℕ) (q : ℤ) :
    ratioValue (Interval.around m q).high = (m + 1 / 2) * 2 ^ q := by
  show ratioValue (.ofBinary (4 * m + 2) (q - 2)) = _
  rw [ratioValue_ofBinary, two_zpow_eq_quarters q]
  push_cast
  ring

/-- A decimal that passes the test lies in the interval of the double. -/
theorem roundsTo_of_contains (hm : 0 < m) (h : (Interval.around m q).contains a k) :
    RoundsTo m q (a * 10 ^ k) := by
  rw [Interval.contains_iff, ratioValue_low hm, ratioValue_high] at h
  by_cases heven : m % 2 = 0
  · rw [if_pos (by simpa [Interval.around] using heven)] at h
    exact ⟨h.1, h.2, fun _ => heven⟩
  · -- the ends are excluded, so nothing is asked of them
    rw [if_neg (by simpa [Interval.around] using heven)] at h
    refine ⟨h.1.le, h.2.le, ?_⟩
    rintro (hlow | hhigh)
    · exact absurd hlow h.1.ne'
    · exact absurd hhigh h.2.ne

theorem roundsTo_of_candidate? {tie : Tie} {r : Ratio} {s : Scaled} (hm : 0 < m)
    (h : candidate? tie r (Interval.around m q) k = some s) : RoundsTo m q s.value := by
  unfold candidate? at h
  dsimp only at h
  -- whichever neighbour is taken has passed the test
  split_ifs at h with hbelow habove
  · obtain rfl := Option.some.inj h
    exact roundsTo_of_contains hm (Bool.and_eq_true_iff.1 hbelow).1
  · obtain rfl := Option.some.inj h
    exact roundsTo_of_contains hm habove

/-! ## 3. Seventeen digits -/

theorem num_ofBinary_pos (hm : 0 < m) (q : ℤ) : 0 < (Ratio.ofBinary m q).num := by
  cases q with
  | ofNat k => exact Nat.mul_pos hm (Nat.two_pow_pos k)
  | negSucc k => exact hm

/-- The step of seventeen digits is small beside what an interval reaches down. Where it
reaches less, the mantissa is less too. -/
theorem div_lt_reach (hcanonical : Canonical m q) : (m : ℚ) / (2 * 10 ^ 16) < reach m q := by
  have hlt : (m : ℚ) < ((2 ^ 53 : ℕ) : ℚ) := by exact_mod_cast hcanonical.lt_two_pow
  rw [div_lt_iff₀ (by norm_num)]
  unfold reach
  split_ifs with hleast
  · rw [hleast.1]
    norm_num
  · push_cast at hlt
    linarith only [hlt]

/-- **Seventeen digits always suffice.** -/
theorem roundsTo_round (tie : Tie) (hcanonical : Canonical m q) {e : ℤ}
    (he : (10 : ℚ) ^ (e - 1) ≤ m * 2 ^ q) :
    RoundsTo m q (tie.round ((Ratio.ofBinary m q).shift (17 - e)) * 10 ^ (e - 17)) := by
  have hgrid := ten_zpow_pos (e - 17)
  have hnear := tie.abs_round_sub_le ((Ratio.ofBinary m q).shift (17 - e))
  rw [ratioValue_shift, ratioValue_ofBinary] at hnear
  generalize (tie.round ((Ratio.ofBinary m q).shift (17 - e)) : ℚ) = n at hnear ⊢
  -- the distance on the grid is scaled back to that of the numbers
  have hinverse : (10 : ℚ) ^ (17 - e) * 10 ^ (e - 17) = 1 := by
    rw [← zpow_add₀ (by norm_num), sub_add_sub_cancel', sub_self, zpow_zero]
  have hscaled : n * 10 ^ (e - 17) - m * 2 ^ q =
      (n - m * 2 ^ q * 10 ^ (17 - e)) * 10 ^ (e - 17) := by
    rw [sub_mul, mul_assoc _ _ (10 ^ (e - 17)), hinverse, mul_one]
  have hstep : (10 : ℚ) ^ (e - 17) ≤ m * 2 ^ q / 10 ^ 16 := by
    rw [le_div_iff₀ (by norm_num)]
    refine le_trans (le_of_eq ?_) he
    rw [← zpow_natCast, ← zpow_add₀ (by norm_num)]
    congr 1
    norm_num
    ring
  apply roundsTo_of_abs_lt
  calc |n * 10 ^ (e - 17) - m * 2 ^ q|
      = |n - m * 2 ^ q * 10 ^ (17 - e)| * 10 ^ (e - 17) := by
        rw [hscaled, abs_mul, abs_of_pos hgrid]
    _ ≤ 1 / 2 * (m * 2 ^ q / 10 ^ 16) := mul_le_mul hnear hstep hgrid.le (by norm_num)
    _ = m / (2 * 10 ^ 16) * 2 ^ q := by ring
    _ < reach m q * 2 ^ q := mul_lt_mul_of_pos_right (div_lt_reach hcanonical) (two_zpow_pos q)

/-! ## 4. The shortest decimal -/

theorem Scaled.value_trim (fuel : ℕ) (s : Scaled) : (s.trim fuel).value = s.value := by
  induction fuel generalizing s with
  | zero => rfl
  | succ fuel ih =>
    unfold Scaled.trim
    split_ifs with hzero
    · rw [ih]
      have hdigits : (s.digits : ℚ) = (s.digits / 10 : ℕ) * 10 := by
        exact_mod_cast (Nat.div_mul_cancel (Nat.dvd_of_mod_eq_zero hzero)).symm
      unfold Scaled.value
      rw [hdigits, zpow_add_one₀ (by norm_num)]
      push_cast
      ring
    · rfl

/-- **The shortest decimal** lies in the interval of its double. -/
theorem roundsTo_shortest (tie : Tie) (hcanonical : Canonical m q) (hm : 0 < m) :
    RoundsTo m q (shortest tie m q).value := by
  unfold shortest
  dsimp only
  rw [Scaled.value_trim]
  cases hfound : (List.range 16).findSome? fun n => candidate? tie (Ratio.ofBinary m q)
      (Interval.around m q) ((Ratio.ofBinary m q).magnitude - (n + 1 : ℕ)) with
  | none =>
    refine roundsTo_round tie hcanonical ?_
    rw [← ratioValue_ofBinary]
    exact Ratio.ten_zpow_magnitude_le _ (num_ofBinary_pos hm q)
  | some s =>
    obtain ⟨n, -, hcandidate⟩ := List.exists_of_findSome?_eq_some hfound
    exact roundsTo_of_candidate? hm hcandidate

/-- **Which is rounded to the double.** -/
theorem roundedMagnitude_shortest (tie : Tie) (hcanonical : Canonical m q) (hm : 0 < m) :
    roundedMagnitude (shortest tie m q).value = m * 2 ^ q :=
  (roundsTo_shortest tie hcanonical hm).roundedMagnitude_eq hcanonical hm

end FlowTriad.Decimal
