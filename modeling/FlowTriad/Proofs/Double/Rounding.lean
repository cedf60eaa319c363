/-
`Proofs/Double/Rounding.lean` -- rounding a number to a double.

A double is a whole number of units, of which there are less than `2 ^ 53`. The unit is
a power of two and grows with the number; only near zero it has a least size. So to
round a number is to count it in its own units, to take the nearest whole number, and to
count back. Of two whole numbers that are equally near, the even one is taken.

All of this is about rational numbers and says nothing of bits. What the later modules
need is here: rounding keeps the order (`rounded_mono`), and moves a number by half a
unit at most (`abs_rounded_sub_le`). The first is less plain than it looks, as the
numbers that are compared may have different units. They are then kept apart by a power
of two, which is whole in both units and so is not moved.
-/
import Mathlib.Algebra.Order.Floor.Ring
import Mathlib.Data.Int.Log
import Mathlib.Data.Rat.Floor
import Mathlib.Tactic.Linarith
import Mathlib.Tactic.NormNum
import Mathlib.Tactic.Ring

set_option autoImplicit false

namespace FlowTriad.Double

/-! ## 1. The nearest whole number

Twice the number is what decides: its floor tells the half that the number is in, and
whether that floor is exact tells if the number lies on the border. -/

/-- The nearest whole number, and of two the even one. -/
def nearestEven (q : ℚ) : ℤ :=
  let half := ⌊2 * q⌋
  if half % 2 = 0 then half / 2
  else if (half : ℚ) = 2 * q then half / 2 + half / 2 % 2
  else half / 2 + 1

/-- The nearest whole number is the floor or the ceiling of the half. -/
theorem nearestEven_bounds (q : ℚ) :
    ⌊2 * q⌋ / 2 ≤ nearestEven q ∧ nearestEven q ≤ (⌊2 * q⌋ + 1) / 2 := by
  unfold nearestEven
  by_cases heven : ⌊2 * q⌋ % 2 = 0
  · rw [if_pos heven]
    omega
  · rw [if_neg heven]
    by_cases htie : (⌊2 * q⌋ : ℚ) = 2 * q
    · rw [if_pos htie]
      omega
    · rw [if_neg htie]
      omega

theorem nearestEven_mono {p q : ℚ} (h : p ≤ q) : nearestEven p ≤ nearestEven q := by
  have hfloor : ⌊2 * p⌋ ≤ ⌊2 * q⌋ := Int.floor_le_floor (by linarith)
  obtain hlt | heq := hfloor.lt_or_eq
  · have hp := (nearestEven_bounds p).2
    have hq := (nearestEven_bounds q).1
    omega
  · -- in one half, only the first number can lie on the border alone
    unfold nearestEven
    rw [heq]
    by_cases heven : ⌊2 * q⌋ % 2 = 0
    · rw [if_pos heven, if_pos heven]
    · rw [if_neg heven, if_neg heven]
      by_cases htie : (⌊2 * q⌋ : ℚ) = 2 * q
      · have hp : (⌊2 * q⌋ : ℚ) = 2 * p := by
          have hle : (⌊2 * q⌋ : ℚ) ≤ 2 * p := heq ▸ Int.floor_le (2 * p)
          linarith
        rw [if_pos htie, if_pos hp]
      · rw [if_neg htie]
        by_cases hp : (⌊2 * q⌋ : ℚ) = 2 * p
        · rw [if_pos hp]
          omega
        · rw [if_neg hp]

theorem nearestEven_intCast (n : ℤ) : nearestEven n = n := by
  have hfloor : ⌊2 * (n : ℚ)⌋ = 2 * n := by
    rw [show 2 * (n : ℚ) = ((2 * n : ℤ) : ℚ) by push_cast; ring, Int.floor_intCast]
  have hbounds := nearestEven_bounds n
  rw [hfloor] at hbounds
  omega

theorem abs_nearestEven_sub_le (q : ℚ) : |(nearestEven q : ℚ) - q| ≤ 1 / 2 := by
  have hle : (⌊2 * q⌋ : ℚ) ≤ 2 * q := Int.floor_le (2 * q)
  have hlt : 2 * q < (⌊2 * q⌋ : ℚ) + 1 := Int.lt_floor_add_one (2 * q)
  have hbounds := nearestEven_bounds q
  by_cases htie : (⌊2 * q⌋ : ℚ) = 2 * q
  · have hnear : 2 * nearestEven q ≤ ⌊2 * q⌋ + 1 ∧ ⌊2 * q⌋ - 1 ≤ 2 * nearestEven q := by omega
    have hupper : 2 * (nearestEven q : ℚ) ≤ ⌊2 * q⌋ + 1 := by exact_mod_cast hnear.1
    have hlower : (⌊2 * q⌋ : ℚ) - 1 ≤ 2 * nearestEven q := by exact_mod_cast hnear.2
    rw [abs_le]
    constructor <;> linarith
  · -- off the border, the whole number is the one on the near side
    have hnear : 2 * nearestEven q = ⌊2 * q⌋ ∨ 2 * nearestEven q = ⌊2 * q⌋ + 1 := by
      unfold nearestEven
      by_cases heven : ⌊2 * q⌋ % 2 = 0
      · rw [if_pos heven]
        omega
      · rw [if_neg heven, if_neg htie]
        omega
    rw [abs_le]
    obtain hnear | hnear := hnear
    · have hcast : 2 * (nearestEven q : ℚ) = ⌊2 * q⌋ := by exact_mod_cast hnear
      constructor <;> linarith
    · have hcast : 2 * (nearestEven q : ℚ) = ⌊2 * q⌋ + 1 := by exact_mod_cast hnear
      constructor <;> linarith

/-- A whole number at a distance of up to a half is the nearest one. At a distance of just a
half there are two of them, and it is if it is even. -/
theorem nearestEven_eq_of_near {q : ℚ} {n : ℤ} (hlower : n - 1 / 2 ≤ q) (hupper : q ≤ n + 1 / 2)
    (heven : q = n - 1 / 2 ∨ q = n + 1 / 2 → n % 2 = 0) : nearestEven q = n := by
  have hatleast : 2 * n - 1 ≤ ⌊2 * q⌋ := by
    rw [Int.le_floor]
    push_cast
    linarith
  have hatmost : ⌊2 * q⌋ < 2 * n + 2 := by
    rw [Int.floor_lt]
    push_cast
    linarith
  have hhalf : ⌊2 * q⌋ = 2 * n - 1 ∨ ⌊2 * q⌋ = 2 * n ∨ ⌊2 * q⌋ = 2 * n + 1 := by omega
  unfold nearestEven
  rcases hhalf with hhalf | hhalf | hhalf
  · rw [hhalf, if_neg (by omega)]
    by_cases htie : ((2 * n - 1 : ℤ) : ℚ) = 2 * q
    · have hn : n % 2 = 0 := by
        refine heven (.inl ?_)
        push_cast at htie
        linarith
      rw [if_pos htie]
      omega
    · rw [if_neg htie]
      omega
  · rw [hhalf, if_pos (by omega)]
    omega
  · -- the half above holds no other number that is near enough
    have htwice : q = n + 1 / 2 := by
      have hle := Int.floor_le (2 * q)
      rw [hhalf] at hle
      push_cast at hle
      linarith
    have htie : ((2 * n + 1 : ℤ) : ℚ) = 2 * q := by
      push_cast
      linarith
    have hn := heven (.inr htwice)
    rw [hhalf, if_neg (by omega), if_pos htie]
    omega

/-! ## 2. The unit of a number -/

/-- The exponent of the unit that a positive number is counted in. -/
def unitExponent (x : ℚ) : ℤ :=
  max (Int.log 2 x - 52) (-1074)

theorem two_zpow_pos (k : ℤ) : (0 : ℚ) < 2 ^ k :=
  zpow_pos (by norm_num) k

theorem least_le_unitExponent (x : ℚ) : -1074 ≤ unitExponent x :=
  le_max_right _ _

theorem unitExponent_mono {x y : ℚ} (hx : 0 < x) (h : x ≤ y) :
    unitExponent x ≤ unitExponent y := by
  have hlog := Int.log_mono_right (b := 2) hx h
  unfold unitExponent
  omega

/-- A number has less than `2 ^ 53` of its units. -/
theorem lt_two_zpow_unitExponent (x : ℚ) : x < 2 ^ (unitExponent x + 53) := by
  have hlog : x < (2 : ℚ) ^ (Int.log 2 x + 1) := by
    exact_mod_cast Int.lt_zpow_succ_log_self (b := 2) (by omega) x
  have hexp : Int.log 2 x + 1 ≤ unitExponent x + 53 := by
    unfold unitExponent
    omega
  exact hlog.trans_le (zpow_le_zpow_right₀ (by norm_num) hexp)

/-- Where the unit is not the least one, a number has at least `2 ^ 52` of them. -/
theorem two_zpow_unitExponent_le {x : ℚ} (hx : 0 < x) (h : -1074 < unitExponent x) :
    2 ^ (unitExponent x + 52) ≤ x := by
  have hlog : (2 : ℚ) ^ Int.log 2 x ≤ x := by
    exact_mod_cast Int.zpow_log_le_self (b := 2) (by omega) hx
  have hexp : unitExponent x + 52 = Int.log 2 x := by
    unfold unitExponent at h ⊢
    omega
  rw [hexp]
  exact hlog

/-- The unit of a number below a power of two. -/
theorem unitExponent_le {x : ℚ} {k : ℤ} (hx : 0 < x) (hk : -1074 ≤ k) (h : x < 2 ^ (k + 53)) :
    unitExponent x ≤ k := by
  have hlog : Int.log 2 x < k + 53 := by
    have hcast : x < ((2 : ℕ) : ℚ) ^ (k + 53) := by exact_mod_cast h
    exact (Int.lt_zpow_iff_log_lt (by omega) hx).1 hcast
  unfold unitExponent
  omega

theorem le_unitExponent {x : ℚ} {k : ℤ} (h : 2 ^ (k + 52) ≤ x) : k ≤ unitExponent x := by
  have hx : 0 < x := (two_zpow_pos _).trans_le h
  have hlog : k + 52 ≤ Int.log 2 x :=
    (Int.zpow_le_iff_le_log (b := 2) (by omega) hx).1 (by exact_mod_cast h)
  unfold unitExponent
  omega

/-! ## 3. Rounding -/

/-- A number that is not negative, rounded. -/
def roundedMagnitude (x : ℚ) : ℚ :=
  nearestEven (x / 2 ^ unitExponent x) * 2 ^ unitExponent x

/-- A number rounded: its magnitude is, and its sign stays. -/
def rounded (x : ℚ) : ℚ :=
  if x < 0 then -roundedMagnitude (-x) else roundedMagnitude x

theorem roundedMagnitude_zero : roundedMagnitude 0 = 0 := by
  unfold roundedMagnitude
  rw [zero_div, ← Int.cast_zero, nearestEven_intCast, Int.cast_zero, zero_mul]

theorem roundedMagnitude_nonneg {x : ℚ} (h : 0 ≤ x) : 0 ≤ roundedMagnitude x := by
  have hquotient : 0 ≤ x / 2 ^ unitExponent x := div_nonneg h (two_zpow_pos _).le
  have hnearest : 0 ≤ nearestEven (x / 2 ^ unitExponent x) := by
    have hmono := nearestEven_mono hquotient
    rwa [← Int.cast_zero, nearestEven_intCast] at hmono
  exact mul_nonneg (by exact_mod_cast hnearest) (two_zpow_pos _).le

/-- A greater power of two is a whole number of units. -/
theorem two_zpow_eq_units (k : ℤ) (n : ℕ) :
    (2 : ℚ) ^ (k + n) = ((2 ^ n : ℤ) : ℚ) * 2 ^ k := by
  rw [zpow_add₀ (by norm_num), zpow_natCast]
  push_cast
  ring

/-- In its units, a number is rounded to `2 ^ 53` at most. -/
theorem nearestEven_units_le (x : ℚ) : nearestEven (x / 2 ^ unitExponent x) ≤ 2 ^ 53 := by
  have hquotient : x / 2 ^ unitExponent x ≤ ((2 ^ 53 : ℤ) : ℚ) := by
    rw [div_le_iff₀ (two_zpow_pos _), ← two_zpow_eq_units]
    exact (lt_two_zpow_unitExponent x).le
  have hmono := nearestEven_mono hquotient
  rwa [nearestEven_intCast] at hmono

/-- Where the unit is not the least one, it is rounded to `2 ^ 52` at least. -/
theorem le_nearestEven_units {x : ℚ} (hx : 0 < x) (h : -1074 < unitExponent x) :
    2 ^ 52 ≤ nearestEven (x / 2 ^ unitExponent x) := by
  have hquotient : ((2 ^ 52 : ℤ) : ℚ) ≤ x / 2 ^ unitExponent x := by
    rw [le_div_iff₀ (two_zpow_pos _), ← two_zpow_eq_units]
    exact two_zpow_unitExponent_le hx h
  have hmono := nearestEven_mono hquotient
  rwa [nearestEven_intCast] at hmono

/-- A power of two that is whole in the units of a number is a bound for what the number
is rounded to, if it is one for the number. -/
theorem roundedMagnitude_le_two_zpow {x : ℚ} {k : ℤ} (hk : unitExponent x ≤ k)
    (h : x ≤ 2 ^ k) : roundedMagnitude x ≤ 2 ^ k := by
  obtain ⟨n, rfl⟩ := Int.le.dest hk
  rw [two_zpow_eq_units] at h ⊢
  have hnearest := nearestEven_mono ((div_le_iff₀ (two_zpow_pos _)).2 h)
  rw [nearestEven_intCast] at hnearest
  exact mul_le_mul_of_nonneg_right (by exact_mod_cast hnearest) (two_zpow_pos _).le

theorem two_zpow_le_roundedMagnitude {x : ℚ} {k : ℤ} (hk : unitExponent x ≤ k)
    (h : 2 ^ k ≤ x) : 2 ^ k ≤ roundedMagnitude x := by
  obtain ⟨n, rfl⟩ := Int.le.dest hk
  rw [two_zpow_eq_units] at h ⊢
  have hnearest := nearestEven_mono ((le_div_iff₀ (two_zpow_pos _)).2 h)
  rw [nearestEven_intCast] at hnearest
  exact mul_le_mul_of_nonneg_right (by exact_mod_cast hnearest) (two_zpow_pos _).le

theorem roundedMagnitude_mono {x y : ℚ} (hx : 0 ≤ x) (h : x ≤ y) :
    roundedMagnitude x ≤ roundedMagnitude y := by
  obtain rfl | hpos := hx.eq_or_lt
  · rw [roundedMagnitude_zero]
    exact roundedMagnitude_nonneg h
  · obtain hlt | heq := (unitExponent_mono hpos h).lt_or_eq
    · -- the least number with the greater unit keeps the two apart
      have hleast : -1074 < unitExponent y := by
        have hfloor := least_le_unitExponent x
        omega
      have hy : (2 : ℚ) ^ (unitExponent y + 52) ≤ roundedMagnitude y :=
        two_zpow_le_roundedMagnitude (by omega)
          (two_zpow_unitExponent_le (hpos.trans_le h) hleast)
      have hx : roundedMagnitude x ≤ 2 ^ (unitExponent y + 52) := by
        refine roundedMagnitude_le_two_zpow (by omega) ?_
        exact (lt_two_zpow_unitExponent x).le.trans
          (zpow_le_zpow_right₀ (by norm_num) (by omega))
      exact hx.trans hy
    · unfold roundedMagnitude
      rw [heq]
      have hquotient := (div_le_div_iff_of_pos_right (two_zpow_pos (unitExponent y))).2 h
      have hnearest := nearestEven_mono hquotient
      exact mul_le_mul_of_nonneg_right (by exact_mod_cast hnearest) (two_zpow_pos _).le

/-- **What needs no rounding.** A number of less than `2 ^ 53` units of some size stays. -/
theorem roundedMagnitude_of_units {m : ℕ} {e : ℤ} (hm : m < 2 ^ 53) (he : -1074 ≤ e) :
    roundedMagnitude (m * 2 ^ e) = m * 2 ^ e := by
  obtain rfl | hpos := Nat.eq_zero_or_pos m
  · rw [Nat.cast_zero, zero_mul, roundedMagnitude_zero]
  · have hx : 0 < (m : ℚ) * 2 ^ e := mul_pos (by exact_mod_cast hpos) (two_zpow_pos e)
    have hlt : (m : ℚ) * 2 ^ e < 2 ^ (e + 53) := by
      rw [show (e + 53 : ℤ) = e + (53 : ℕ) by norm_num, two_zpow_eq_units]
      exact mul_lt_mul_of_pos_right (by exact_mod_cast hm) (two_zpow_pos e)
    -- it is whole in its own units, which are not larger
    obtain ⟨n, hn⟩ := Int.le.dest (unitExponent_le hx he hlt)
    unfold roundedMagnitude
    generalize unitExponent (m * 2 ^ e) = k at hn
    have hwhole : (m : ℚ) * 2 ^ e = ((m * 2 ^ n : ℤ) : ℚ) * 2 ^ k := by
      rw [← hn, two_zpow_eq_units]
      push_cast
      ring
    rw [hwhole, mul_div_cancel_right₀ _ (two_zpow_pos k).ne', nearestEven_intCast]

theorem rounded_of_nonneg {x : ℚ} (h : 0 ≤ x) : rounded x = roundedMagnitude x :=
  if_neg h.not_gt

theorem rounded_neg (x : ℚ) : rounded (-x) = -rounded x := by
  unfold rounded
  obtain hneg | rfl | hpos := lt_trichotomy x 0
  · rw [if_neg (by linarith), if_pos hneg, neg_neg]
  · rw [neg_zero, if_neg (lt_irrefl _), if_neg (lt_irrefl _), roundedMagnitude_zero, neg_zero]
  · rw [if_pos (by linarith), if_neg hpos.not_gt, neg_neg]

/-- **Rounding keeps the order.** -/
theorem rounded_mono {x y : ℚ} (h : x ≤ y) : rounded x ≤ rounded y := by
  by_cases hx : x < 0
  · have hneg : rounded x = -roundedMagnitude (-x) := if_pos hx
    by_cases hy : y < 0
    · have hneg' : rounded y = -roundedMagnitude (-y) := if_pos hy
      rw [hneg, hneg', neg_le_neg_iff]
      exact roundedMagnitude_mono (by linarith) (by linarith)
    · rw [hneg, rounded_of_nonneg (not_lt.1 hy)]
      have hx' := roundedMagnitude_nonneg (x := -x) (by linarith)
      have hy' := roundedMagnitude_nonneg (not_lt.1 hy)
      linarith
  · have hx := not_lt.1 hx
    rw [rounded_of_nonneg hx, rounded_of_nonneg (hx.trans h)]
    exact roundedMagnitude_mono hx h

/-- **Rounding moves a number by half a unit at most**, and the unit is known from a power of
two that bounds the number. -/
theorem abs_rounded_sub_le {x : ℚ} {k : ℤ} (hk : -1074 ≤ k) (h : |x| < 2 ^ (k + 53)) :
    |rounded x - x| ≤ 2 ^ k / 2 := by
  have hmagnitude {z : ℚ} (hz : 0 ≤ z) (hlt : z < 2 ^ (k + 53)) :
      |roundedMagnitude z - z| ≤ 2 ^ k / 2 := by
    obtain rfl | hpos := hz.eq_or_lt
    · rw [roundedMagnitude_zero, sub_zero, abs_zero]
      exact (half_pos (two_zpow_pos k)).le
    · have hunit : (2 : ℚ) ^ unitExponent z ≤ 2 ^ k :=
        zpow_le_zpow_right₀ (by norm_num) (unitExponent_le hpos hk hlt)
      have hcounted : roundedMagnitude z - z =
          (nearestEven (z / 2 ^ unitExponent z) - z / 2 ^ unitExponent z) *
            2 ^ unitExponent z := by
        unfold roundedMagnitude
        rw [sub_mul, div_mul_cancel₀ _ (two_zpow_pos _).ne']
      rw [hcounted, abs_mul, abs_of_pos (two_zpow_pos _)]
      calc |(nearestEven (z / 2 ^ unitExponent z) : ℚ) - z / 2 ^ unitExponent z| *
              2 ^ unitExponent z
          ≤ 1 / 2 * 2 ^ unitExponent z :=
            mul_le_mul_of_nonneg_right (abs_nearestEven_sub_le _) (two_zpow_pos _).le
        _ ≤ 2 ^ k / 2 := by linarith
  by_cases hx : x < 0
  · have hneg : rounded x = -roundedMagnitude (-x) := if_pos hx
    rw [abs_of_neg hx] at h
    rw [hneg, abs_sub_comm, show x - -roundedMagnitude (-x) = roundedMagnitude (-x) - -x by ring]
    exact hmagnitude (by linarith) h
  · have hx := not_lt.1 hx
    rw [abs_of_nonneg hx] at h
    rw [rounded_of_nonneg hx]
    exact hmagnitude hx h

/-- **Rounding keeps the size** of what is not too small: it moves a number by a part in
`2 ^ 53` at most. -/
theorem abs_rounded_sub_le_part {x : ℚ} (h : 2 ^ (-1022 : ℤ) ≤ |x|) :
    |rounded x - x| ≤ |x| / 2 ^ 53 := by
  have hpos : 0 < |x| := (two_zpow_pos _).trans_le h
  have hunit : 2 ^ (unitExponent |x| + 52) ≤ |x| := by
    rcases (least_le_unitExponent |x|).eq_or_lt with heq | hlt
    · rw [← heq]
      exact h
    · exact two_zpow_unitExponent_le hpos hlt
  calc |rounded x - x| ≤ 2 ^ unitExponent |x| / 2 :=
        abs_rounded_sub_le (least_le_unitExponent _) (lt_two_zpow_unitExponent _)
    _ = 2 ^ (unitExponent |x| + 52) / 2 ^ 53 := by
        rw [zpow_add₀ (by norm_num)]
        norm_num
        ring
    _ ≤ |x| / 2 ^ 53 := by
        apply div_le_div_of_nonneg_right hunit
        norm_num

theorem rounded_two_zpow {k : ℤ} (hk : -1074 ≤ k) : rounded (2 ^ k) = 2 ^ k := by
  rw [rounded_of_nonneg (two_zpow_pos k).le]
  simpa using roundedMagnitude_of_units (m := 1) (by norm_num) hk

/-- Rounding does not leave what is bounded by a power of two. -/
theorem abs_rounded_le {x : ℚ} {k : ℤ} (hk : -1074 ≤ k) (h : |x| ≤ 2 ^ k) :
    |rounded x| ≤ 2 ^ k := by
  have hpower := rounded_two_zpow hk
  obtain ⟨hlower, hupper⟩ := abs_le.1 h
  rw [abs_le]
  constructor
  · rw [← hpower, ← rounded_neg]
    exact rounded_mono hlower
  · rw [← hpower]
    exact rounded_mono hupper

/-- It does not reach zero either. -/
theorem rounded_neg_of_le {x : ℚ} {k : ℤ} (hk : -1074 ≤ k) (h : x ≤ -2 ^ k) : rounded x < 0 := by
  have hpower := rounded_two_zpow hk
  have hmono := rounded_mono h
  rw [rounded_neg, hpower] at hmono
  linarith [two_zpow_pos k]

theorem rounded_nonneg {x : ℚ} (h : 0 ≤ x) : 0 ≤ rounded x := by
  rw [rounded_of_nonneg h]
  exact roundedMagnitude_nonneg h

end FlowTriad.Double
