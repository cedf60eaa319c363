/-
`Proofs/Double/Addition.lean` -- sums of doubles, and sums that need no rounding.

A sum is computed in the smaller of the two units, where both terms are whole, and then
rounded once (`HasValue.add`). A zero is passed over on the way, so that a term that is
left alone is not rounded at all; it would not change if it were.

Whole numbers up to `2 ^ 53` are doubles (`rounded_natCast`). So as long as totals stay
within that bound, adding up is exact, in whatever order it is done.
-/
import FlowTriad.Proofs.Double.Operations

set_option autoImplicit false

namespace FlowTriad.Double

open Float.Model (Format UnpackedFloat)
open Float.Model.UnpackedFloat

variable {s t : Sign} {u v : UnpackedFloat} {x y : ℚ} {a b : Float} {p q : ℚ}

/-! ## 1. Sums -/

/-- A signed number of units of any size, rounded. -/
theorem exists_denotes_normalize {n e : ℤ} (hq : q = n * 2 ^ e) :
    ∃ r z, Denotes (UnpackedFloat.normalize Format.binary64 n e .positive) r z ∧
      rounded q = signed r z := by
  unfold UnpackedFloat.normalize
  obtain hneg | rfl | hpos := lt_trichotomy n 0
  · rw [compare_lt_iff_lt.2 hneg]
    have hmagnitude : (((-n).toNat : ℕ) : ℚ) = -n := by
      exact_mod_cast Int.toNat_of_nonneg (a := -n) (by omega)
    have hdenotes := denotes_round .negative e (m := (-n).toNat) (by omega)
    rw [hmagnitude] at hdenotes
    refine ⟨_, _, hdenotes, ?_⟩
    have hcast : (0 : ℚ) ≤ -n := by exact_mod_cast (by omega : 0 ≤ -n)
    rw [← rounded_signed .negative (mul_nonneg hcast (two_zpow_pos e).le), signed_negative, hq,
      neg_mul, neg_neg]
  · rw [compare_eq_iff_eq.2 rfl]
    refine ⟨_, _, .zero .positive, ?_⟩
    rw [hq, Int.cast_zero, zero_mul, rounded_of_nonneg le_rfl, roundedMagnitude_zero]
    rfl
  · rw [compare_gt_iff_gt.2 hpos]
    have hmagnitude : ((n.toNat : ℕ) : ℚ) = n := by
      exact_mod_cast Int.toNat_of_nonneg hpos.le
    have hdenotes := denotes_round .positive e (m := n.toNat) (by omega)
    rw [hmagnitude] at hdenotes
    refine ⟨_, _, hdenotes, ?_⟩
    rw [hq, rounded_of_nonneg (mul_nonneg (by exact_mod_cast hpos.le) (two_zpow_pos e).le)]
    rfl

/-- A number is whole in units that are not larger than its own. -/
theorem decreaseExponent_value (s : Sign) (m : ℕ) {e k : ℤ} (h : k ≤ e) :
    ((s.apply ((decreaseExponent m e k).1 : ℤ) : ℤ) : ℚ) * 2 ^ k = signed s (m * 2 ^ e) := by
  obtain ⟨n, rfl⟩ := Int.le.dest h
  have hshift : (k + n - k).toNat = n := by omega
  have hmantissa : (decreaseExponent m (k + n) k).1 = m <<< n := by
    unfold decreaseExponent
    rw [hshift]
  have hvalue : (((decreaseExponent m (k + n) k).1 : ℕ) : ℚ) * 2 ^ k = m * 2 ^ (k + n : ℤ) := by
    rw [hmantissa, Nat.shiftLeft_eq, two_zpow_eq_units]
    push_cast
    ring
  cases s with
  | negative =>
    rw [signed_negative, ← hvalue]
    show ((-((decreaseExponent m (k + n) k).1 : ℤ) : ℤ) : ℚ) * 2 ^ k = _
    push_cast
    ring
  | positive => exact hvalue

/-- What has the form of a double needs no rounding. -/
theorem Denotes.roundedMagnitude_eq (h : Denotes u s x) : roundedMagnitude x = x := by
  cases h with
  | zero => exact roundedMagnitude_zero
  | finite _ hm hcanonical =>
    exact roundedMagnitude_of_units hcanonical.lt_two_pow hcanonical.least_le

theorem Denotes.rounded_signed (h : Denotes u s x) : rounded (signed s x) = signed s x := by
  rw [Double.rounded_signed s h.nonneg, h.roundedMagnitude_eq]

/-- Neither does what has a place in the order, infinity included. -/
theorem HasRank.limited_rounded_eq (h : HasRank a q) : limited (rounded q) = q := by
  obtain ⟨s, x, hranks, rfl⟩ := h
  generalize a.toModel.unpack = u at hranks
  cases hranks with
  | value hdenotes hlt =>
    rw [hdenotes.rounded_signed]
    exact limited_signed_of_lt s hdenotes.nonneg hlt
  | infinity =>
    have hlimit : rounded (2 ^ (1024 : ℤ)) = 2 ^ (1024 : ℤ) := rounded_two_zpow (by norm_num)
    rw [rounded_signed s (two_zpow_pos _).le, ← rounded_of_nonneg (two_zpow_pos _).le, hlimit]
    exact limited_signed_of_le s le_rfl

theorem exists_denotes_add (hu : Denotes u s x) (hv : Denotes v t y) :
    ∃ r z, Denotes (UnpackedFloat.add Format.binary64 u v) r z ∧
      rounded (signed s x + signed t y) = signed r z := by
  have hx := hu.rounded_signed
  have hy := hv.rounded_signed
  -- of two terms one of which is zero, the other is handed on as it is
  cases hu with
  | zero =>
    rw [signed_zero, zero_add, hy]
    cases hv with
    | zero =>
      obtain ⟨r, hsum⟩ : ∃ r, UnpackedFloat.add Format.binary64 (.zero s) (.zero t) = .zero r := by
        cases s <;> cases t <;> exact ⟨_, rfl⟩
      refine ⟨r, 0, ?_, by rw [signed_zero, signed_zero]⟩
      rw [hsum]
      exact .zero r
    | finite _ hn h => exact ⟨t, _, .finite _ hn h, rfl⟩
  | @finite _ m d hm hcm =>
    cases hv with
    | zero =>
      rw [signed_zero, add_zero, hx]
      exact ⟨s, _, .finite _ hm hcm, rfl⟩
    | @finite _ n e hn hcn =>
      refine exists_denotes_normalize ?_
      rw [← decreaseExponent_value s m (min_le_left d e),
        ← decreaseExponent_value t n (min_le_right d e), ← add_mul]
      push_cast
      rfl

/-- **A sum** is rounded once. This is where it stands, also if it is beyond the limits. -/
theorem HasValue.hasRank_add (ha : HasValue a p) (hb : HasValue b q) :
    HasRank (a + b) (limited (rounded (p + q))) := by
  obtain ⟨s, x, ha, -, rfl⟩ := ha
  obtain ⟨t, y, hb, -, rfl⟩ := hb
  obtain ⟨r, z, hsum, hz⟩ := exists_denotes_add ha hb
  rw [hz]
  exact hasRank_pack hsum

theorem HasValue.add (ha : HasValue a p) (hb : HasValue b q)
    (hlt : |rounded (p + q)| < 2 ^ (1024 : ℤ)) : HasValue (a + b) (rounded (p + q)) :=
  (ha.hasRank_add hb).hasValue hlt

/-- The same of numbers that are not negative, if the first of them was beyond the limits
before. -/
theorem HasRank.add (ha : HasRank a p) (hp : 0 ≤ p) (hb : HasValue b q) (hq : 0 ≤ q) :
    HasRank (a + b) (limited (rounded (p + q))) := by
  rcases ha.cases_of_nonneg hp with hvalue | ⟨hinfinite, rfl⟩
  · exact hvalue.hasRank_add hb
  · obtain ⟨t, y, hb, -, rfl⟩ := hb
    show HasRank (.ofModel (.pack (UnpackedFloat.add Format.binary64 a.toModel.unpack
      b.toModel.unpack))) _
    have hsum : UnpackedFloat.add Format.binary64 (.infinity .positive) b.toModel.unpack =
        .infinity .positive := by
      generalize b.toModel.unpack = v at hb
      cases hb <;> rfl
    rw [hinfinite, hsum, limited_rounded_of_le (le_add_of_nonneg_right hq)]
    exact hasRank_infinity .positive

/-! ## 2. Whole numbers -/

/-- **Whole numbers up to `2 ^ 53`** need no rounding. -/
theorem rounded_natCast {n : ℕ} (h : n ≤ 2 ^ 53) : rounded n = n := by
  obtain hlt | rfl := h.lt_or_eq
  · rw [rounded_of_nonneg (Nat.cast_nonneg n)]
    simpa using roundedMagnitude_of_units hlt (e := 0) (by decide)
  · have hpower : ((2 ^ 53 : ℕ) : ℚ) = 2 ^ (53 : ℤ) := by
      rw [Nat.cast_pow, Nat.cast_ofNat, ← zpow_natCast]
      rfl
    rw [hpower, rounded_two_zpow (by norm_num)]

theorem natCast_lt_limit {n : ℕ} (h : n ≤ 2 ^ 53) : |rounded (n : ℚ)| < 2 ^ (1024 : ℤ) := by
  have hcast : (n : ℚ) ≤ ((2 ^ 53 : ℕ) : ℚ) := by exact_mod_cast h
  rw [rounded_natCast h, abs_of_nonneg (Nat.cast_nonneg n)]
  refine hcast.trans_lt ?_
  rw [Nat.cast_pow, Nat.cast_ofNat, ← zpow_natCast]
  exact zpow_lt_zpow_right₀ (by norm_num) (by norm_num)

variable {m n : ℕ}

/-- A sum of whole numbers is exact, up to `2 ^ 53`. -/
theorem HasValue.add_natCast (ha : HasValue a m) (hb : HasValue b n) (h : m + n ≤ 2 ^ 53) :
    HasValue (a + b) ((m + n : ℕ) : ℚ) := by
  have hadd := ha.add hb (by exact_mod_cast natCast_lt_limit h)
  rwa [← Nat.cast_add, rounded_natCast h] at hadd

/-- So is a product, however large one of its factors is. -/
theorem HasValue.mul_natCast (ha : HasValue a m) (hb : HasValue b n) (h : m * n ≤ 2 ^ 53) :
    HasValue (a * b) ((m * n : ℕ) : ℚ) := by
  have hmul := ha.mul hb (by exact_mod_cast natCast_lt_limit h)
  rwa [← Nat.cast_mul, rounded_natCast h] at hmul

end FlowTriad.Double
