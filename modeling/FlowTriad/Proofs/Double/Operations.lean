/-
`Proofs/Double/Operations.lean` -- what operations on doubles compute.

Each operation gives the exact result, rounded once: a product (`HasValue.mul`), a quotient
(`HasValue.div`). The exact result is never there as such. A product is computed to all its
bits, a quotient to as many as rounding needs, with what the remainder says of the rest.

The one condition is that the result is below `2 ^ 1024`; above that there is only
infinity.
-/
import FlowTriad.Proofs.Double.Value

set_option autoImplicit false

namespace FlowTriad.Double

open Float.Model (Format totalExponent UnpackedFloat)
open Float.Model.UnpackedFloat

variable {s t : Sign} {u v : UnpackedFloat} {x y : ℚ}

/-! ## 1. Whole numbers and products -/

/-- A number of units of any size, rounded. -/
theorem denotes_round (s : Sign) {m : ℕ} (e : ℤ) (hm : 0 < m) :
    Denotes (UnpackedFloat.round Format.binary64 s m e) s (roundedMagnitude (m * 2 ^ e)) := by
  have hx : 0 < (m : ℚ) * 2 ^ e := mul_pos (by exact_mod_cast hm) (two_zpow_pos e)
  have hlt : (m : ℚ) * 2 ^ e < (m + 1) * 2 ^ e :=
    mul_lt_mul_of_pos_right (lt_add_one _) (two_zpow_pos e)
  have htarget := targetExponent_eq_unitExponent hx le_rfl hlt (.inr hm)
  unfold UnpackedFloat.round decreaseExponent
  simp only [htarget]
  -- zero bits are added until the unit is not larger than the number's own
  generalize hn : (e - unitExponent (m * 2 ^ e)).toNat = n
  refine denotes_roundWithAccuracy s hx ?_ (by omega)
  have hshifted : (m : ℚ) * 2 ^ e / 2 ^ (e - n) = ((m <<< n : ℕ) : ℚ) := by
    rw [Nat.shiftLeft_eq, zpow_sub₀ (by norm_num), zpow_natCast]
    push_cast
    field_simp
  rw [hshifted]
  exact represents_exact _

theorem denotes_ofNat (n : ℕ) :
    Denotes (UnpackedFloat.ofNat Format.binary64 n) .positive (roundedMagnitude n) := by
  unfold UnpackedFloat.ofNat UnpackedFloat.ofInt UnpackedFloat.normalize
  obtain rfl | hpos := Nat.eq_zero_or_pos n
  · rw [Nat.cast_zero, Nat.cast_zero, roundedMagnitude_zero]
    exact .zero _
  · have hcompare : compare (n : ℤ) 0 = .gt := compare_gt_iff_gt.2 (by exact_mod_cast hpos)
    rw [hcompare]
    simpa using denotes_round .positive 0 hpos

/-- The exponents of two factors add up to that of a unit small enough for the product. -/
theorem denotes_mul_finite {m n : ℕ} {d e : ℤ} (s t : Sign) (hm : 0 < m) (hn : 0 < n)
    (hunit : d + e ≤ unitExponent ((m : ℚ) * 2 ^ d * (n * 2 ^ e))) :
    Denotes (UnpackedFloat.mul Format.binary64 (.finite s m d hm) (.finite t n e hn)) (s * t)
      (roundedMagnitude (m * 2 ^ d * (n * 2 ^ e))) := by
  have hx : 0 < (m : ℚ) * 2 ^ d * (n * 2 ^ e) :=
    mul_pos (mul_pos (by exact_mod_cast hm) (two_zpow_pos d))
      (mul_pos (by exact_mod_cast hn) (two_zpow_pos e))
  refine denotes_roundWithAccuracy (s * t) hx ?_ hunit
  have hproduct : (m : ℚ) * 2 ^ d * (n * 2 ^ e) / 2 ^ (d + e) = ((m * n : ℕ) : ℚ) := by
    rw [zpow_add₀ (by norm_num)]
    push_cast
    field_simp
  rw [hproduct]
  exact represents_exact _

theorem Canonical.add_le_unitExponent {m n : ℕ} {d e : ℤ} (hm : Canonical m d)
    (hn : Canonical n e) (hmpos : 0 < m) (hnpos : 0 < n) :
    d + e ≤ unitExponent ((m : ℚ) * 2 ^ d * (n * 2 ^ e)) := by
  have hproduct : (m : ℚ) * 2 ^ d * (n * 2 ^ e) = ((m * n : ℕ) : ℚ) * 2 ^ (d + e) := by
    rw [zpow_add₀ (by norm_num)]
    push_cast
    ring
  by_cases hfull : 2 ^ 52 ≤ m * n
  · apply le_unitExponent
    rw [hproduct, add_comm, zpow_add₀ (by norm_num)]
    exact mul_le_mul_of_nonneg_right (by exact_mod_cast hfull) (two_zpow_pos _).le
  · -- a short product has two short factors, and both exponents are the least
    have hd : d = -1074 := by
      have hleast := hm.least_le
      by_contra hne
      exact hfull ((hm.two_pow_le (by omega)).trans (Nat.le_mul_of_pos_right m hnpos))
    have he : e = -1074 := by
      have hleast := hn.least_le
      by_contra hne
      exact hfull ((hn.two_pow_le (by omega)).trans (Nat.le_mul_of_pos_left n hmpos))
    have hunit := least_le_unitExponent ((m : ℚ) * 2 ^ d * (n * 2 ^ e))
    omega

theorem denotes_mul (hu : Denotes u s x) (hv : Denotes v t y) :
    Denotes (UnpackedFloat.mul Format.binary64 u v) (s * t) (roundedMagnitude (x * y)) := by
  cases hu with
  | zero =>
    rw [zero_mul, roundedMagnitude_zero]
    cases hv <;> exact .zero _
  | finite _ hm hcm =>
    cases hv with
    | zero =>
      rw [mul_zero, roundedMagnitude_zero]
      exact .zero _
    | finite _ hn hcn =>
      exact denotes_mul_finite s t hm hn (hcm.add_le_unitExponent hcn hm hn)

theorem signed_mul (s t : Sign) (x y : ℚ) : signed (s * t) (x * y) = signed s x * signed t y := by
  cases s <;> cases t
  · exact (neg_mul_neg x y).symm
  · exact (neg_mul x y).symm
  · exact (mul_neg x y).symm
  · rfl

variable {a b : Float} {p q : ℚ}

/-- **A product** is rounded once. This is where it stands, also if it is beyond the
limits. -/
theorem HasValue.hasRank_mul (ha : HasValue a p) (hb : HasValue b q) :
    HasRank (a * b) (limited (rounded (p * q))) := by
  obtain ⟨s, x, ha, -, rfl⟩ := ha
  obtain ⟨t, y, hb, -, rfl⟩ := hb
  rw [← signed_mul, rounded_signed (s * t) (mul_nonneg ha.nonneg hb.nonneg)]
  exact hasRank_pack (denotes_mul ha hb)

theorem HasValue.mul (ha : HasValue a p) (hb : HasValue b q)
    (hlt : |rounded (p * q)| < 2 ^ (1024 : ℤ)) : HasValue (a * b) (rounded (p * q)) :=
  (ha.hasRank_mul hb).hasValue hlt

/-- What is beyond the limits stays there when it is rounded. -/
theorem limited_rounded_of_le (h : 2 ^ (1024 : ℤ) ≤ q) :
    limited (rounded q) = 2 ^ (1024 : ℤ) := by
  have hrounded := rounded_mono h
  rw [rounded_two_zpow (by norm_num)] at hrounded
  exact limited_signed_of_le .positive hrounded

theorem infinity_mul (hv : Denotes v t y) (hpos : 0 < signed t y) :
    UnpackedFloat.mul Format.binary64 (.infinity .positive) v = .infinity .positive := by
  have hy := hv.nonneg
  cases t with
  | negative =>
    rw [signed_negative] at hpos
    linarith
  | positive =>
    cases hv with
    | zero => exact absurd hpos (lt_irrefl _)
    | finite _ hn h => rfl

/-- An infinity stays infinite when it is multiplied. -/
theorem hasRank_mul_of_infinite (ha : a.toModel.unpack = .infinity .positive)
    (hb : HasValue b q) (hq : 0 < q) : HasRank (a * b) (2 ^ (1024 : ℤ)) := by
  obtain ⟨t, y, hb, -, rfl⟩ := hb
  show HasRank (.ofModel (.pack (UnpackedFloat.mul Format.binary64 a.toModel.unpack
    b.toModel.unpack))) _
  rw [ha, infinity_mul hb hq]
  exact hasRank_infinity .positive

/-- The same of numbers that are not negative, the first of which may be infinite, and the
second is not smaller than one. -/
theorem HasRank.mul (ha : HasRank a p) (hp : 0 ≤ p) (hb : HasValue b q) (hq : 1 ≤ q) :
    HasRank (a * b) (limited (rounded (p * q))) := by
  rcases ha.cases_of_nonneg hp with hvalue | ⟨hinfinite, rfl⟩
  · exact hvalue.hasRank_mul hb
  · rw [limited_rounded_of_le (le_mul_of_one_le_right (two_zpow_pos _).le hq)]
    exact hasRank_mul_of_infinite hinfinite hb (zero_lt_one.trans_le hq)

/-! ## 2. Zero, whole numbers and signs -/

theorem hasValue_zero : HasValue 0.0 0 := by
  have hunpack : (0.0 : Float).toModel.unpack = .zero .positive := by rfl
  refine ⟨.positive, 0, ?_, two_zpow_pos _, rfl⟩
  rw [hunpack]
  exact .zero _

/-- A number of up to 53 bits is kept as it is. -/
theorem hasValue_toFloat {n : ℕ} (hn : n < 2 ^ 53) : HasValue n.toUInt64.toFloat n := by
  have hexact : roundedMagnitude n = n := by
    simpa using roundedMagnitude_of_units hn (e := 0) (by decide)
  have hword : n.toUInt64.toNat = n := by
    rw [UInt64.toNat_ofNat', Nat.mod_eq_of_lt (by omega)]
  have hbound : (n : ℚ) < 2 ^ (1024 : ℤ) := by
    have hcast : (n : ℚ) < ((2 ^ 53 : ℕ) : ℚ) := by exact_mod_cast hn
    refine hcast.trans ?_
    rw [Nat.cast_pow, Nat.cast_ofNat, ← zpow_natCast]
    exact zpow_lt_zpow_right₀ (by norm_num) (by norm_num)
  have hdenotes : Denotes (UnpackedFloat.ofNat Format.binary64 n.toUInt64.toNat) .positive n := by
    have hnat := denotes_ofNat n
    rwa [hexact, ← congrArg (UnpackedFloat.ofNat Format.binary64) hword] at hnat
  exact hasValue_pack hdenotes hbound

theorem signed_neg (s : Sign) (x : ℚ) : signed (-s) x = -signed s x := by
  cases s
  · exact (neg_neg x).symm
  · rfl

theorem Denotes.neg (h : Denotes u s x) : Denotes u.neg (-s) x := by
  cases h with
  | zero => exact .zero _
  | finite _ hm h => exact .finite _ hm h

theorem HasValue.neg (ha : HasValue a p) : HasValue a.neg (-p) := by
  obtain ⟨s, x, ha, hlt, rfl⟩ := ha
  rw [← signed_neg]
  exact hasValue_pack ha.neg hlt

/-! ## 3. Quotients -/

/-- The quotient of two whole numbers, and what the remainder says of the rest. -/
theorem represents_fraction {m n : ℕ} (hn : 0 < n) :
    Represents
      (ExtendedMantissa.ofMantissaAndAccuracy (m / n) (accuracyOfFraction (m % n) n))
      ((m : ℚ) / n) := by
  have hpos : (0 : ℚ) < n := by exact_mod_cast hn
  have hdecomposed : (m : ℚ) = n * (m / n : ℕ) + (m % n : ℕ) := by
    exact_mod_cast (Nat.div_add_mod m n).symm
  have hrest : m % n < n := Nat.mod_lt m hn
  generalize m / n = k at hdecomposed
  generalize m % n = r at hdecomposed hrest
  have htwice : 2 * ((m : ℚ) / n) = 2 * k + 2 * r / n := by
    rw [hdecomposed]
    field_simp
  -- what is left over is compared with half of the divisor
  unfold accuracyOfFraction
  by_cases hzero : r = 0
  · rw [if_pos hzero]
    have hwhole : (m : ℚ) / n = k := by
      rw [hzero, Nat.cast_zero, mul_zero, zero_div, add_zero] at htwice
      linarith
    rw [hwhole]
    exact represents_exact k
  · rw [if_neg hzero]
    have hsome : 0 < 2 * (r : ℚ) / n :=
      div_pos (mul_pos two_pos (by exact_mod_cast Nat.pos_of_ne_zero hzero)) hpos
    have hnext : 2 * (r : ℚ) / n < 2 := by
      rw [div_lt_iff₀ hpos]
      exact mul_lt_mul_of_pos_left (by exact_mod_cast hrest) two_pos
    obtain hlt | heq | hgt := lt_trichotomy (2 * r) n
    · have hhalf : 2 * (r : ℚ) / n < 1 := by
        rw [div_lt_one hpos]
        exact_mod_cast hlt
      have hfloor : ⌊2 * ((m : ℚ) / n)⌋ = 2 * k := by
        rw [Int.floor_eq_iff, htwice]
        push_cast
        constructor <;> linarith
      rw [compare_lt_iff_lt.2 hlt]
      constructor
      · simpa [ExtendedMantissa.ofMantissaAndAccuracy] using hfloor
      · rw [hfloor, htwice]
        simp [ExtendedMantissa.ofMantissaAndAccuracy, hsome.ne']
    · have hhalf : 2 * (r : ℚ) / n = 1 := by
        rw [div_eq_one_iff_eq hpos.ne']
        exact_mod_cast heq
      have hfloor : ⌊2 * ((m : ℚ) / n)⌋ = 2 * k + 1 := by
        rw [Int.floor_eq_iff, htwice, hhalf]
        push_cast
        constructor <;> linarith
      rw [compare_eq_iff_eq.2 heq]
      constructor
      · simpa [ExtendedMantissa.ofMantissaAndAccuracy] using hfloor
      · rw [hfloor, htwice, hhalf]
        simp [ExtendedMantissa.ofMantissaAndAccuracy]
    · have hhalf : 1 < 2 * (r : ℚ) / n := by
        rw [one_lt_div hpos]
        exact_mod_cast hgt
      have hfloor : ⌊2 * ((m : ℚ) / n)⌋ = 2 * k + 1 := by
        rw [Int.floor_eq_iff, htwice]
        push_cast
        constructor <;> linarith
      rw [compare_gt_iff_gt.2 hgt]
      constructor
      · simpa [ExtendedMantissa.ofMantissaAndAccuracy] using hfloor
      · rw [hfloor, htwice]
        simp [ExtendedMantissa.ofMantissaAndAccuracy, hhalf.ne]

/-- The total exponent of a mantissa tells the powers of two around its number. -/
theorem two_zpow_totalExponent_le {m : ℕ} (hm : 0 < m) (e : ℤ) :
    (2 : ℚ) ^ (totalExponent m e - 1) ≤ m * 2 ^ e := by
  have hself : 2 ^ m.log2 ≤ m := Nat.log2_self_le hm.ne'
  unfold totalExponent
  rw [show (m.log2 : ℤ) + 1 + e - 1 = m.log2 + e by ring, zpow_add₀ (by norm_num), zpow_natCast]
  exact mul_le_mul_of_nonneg_right (by exact_mod_cast hself) (two_zpow_pos e).le

theorem lt_two_zpow_totalExponent (m : ℕ) (e : ℤ) :
    (m : ℚ) * 2 ^ e < 2 ^ totalExponent m e := by
  have hnext : m < 2 ^ (m.log2 + 1) := Nat.lt_log2_self
  unfold totalExponent
  rw [show (m.log2 : ℤ) + 1 = ((m.log2 + 1 : ℕ) : ℤ) by push_cast; rfl, zpow_add₀ (by norm_num),
    zpow_natCast]
  exact mul_lt_mul_of_pos_right (by exact_mod_cast hnext) (two_zpow_pos e)

/-- Their difference is at most one more than the logarithm of the quotient, so a quotient
that is computed down to it has bits enough. -/
theorem targetExponent_sub_le {m n : ℕ} {d e : ℤ} (hm : 0 < m) (hn : 0 < n) :
    Format.binary64.targetExponent (totalExponent m d - totalExponent n e) ≤
      unitExponent ((m : ℚ) * 2 ^ d / (n * 2 ^ e)) := by
  have hpos : 0 < (n : ℚ) * 2 ^ e := mul_pos (by exact_mod_cast hn) (two_zpow_pos e)
  have hquotient : (2 : ℚ) ^ (totalExponent m d - totalExponent n e - 53 + 52) ≤
      m * 2 ^ d / (n * 2 ^ e) := by
    rw [le_div_iff₀ hpos]
    calc (2 : ℚ) ^ (totalExponent m d - totalExponent n e - 53 + 52) * (n * 2 ^ e)
        ≤ 2 ^ (totalExponent m d - totalExponent n e - 53 + 52) * 2 ^ totalExponent n e :=
          mul_le_mul_of_nonneg_left (lt_two_zpow_totalExponent n e).le (two_zpow_pos _).le
      _ = 2 ^ (totalExponent m d - 1) := by
          rw [← zpow_add₀ (by norm_num)]
          congr 1
          omega
      _ ≤ m * 2 ^ d := two_zpow_totalExponent_le hm d
  rw [targetExponent_eq]
  exact max_le (le_unitExponent hquotient) (least_le_unitExponent _)

/-- The dividend gets as many zero bits as the exponent is lowered by. -/
theorem denotes_div_finite {m n : ℕ} {d e : ℤ} (s t : Sign) (hm : 0 < m) (hn : 0 < n) :
    Denotes (UnpackedFloat.div Format.binary64 (.finite s m d hm) (.finite t n e hn)) (s / t)
      (roundedMagnitude (m * 2 ^ d / (n * 2 ^ e))) := by
  have hx : 0 < (m : ℚ) * 2 ^ d / (n * 2 ^ e) :=
    div_pos (mul_pos (by exact_mod_cast hm) (two_zpow_pos d))
      (mul_pos (by exact_mod_cast hn) (two_zpow_pos e))
  unfold UnpackedFloat.div divCore
  simp only
  generalize htarget : min (d - e) (Format.binary64.targetExponent
    (totalExponent m d - totalExponent n e)) = k
  have hle : k ≤ d - e := by omega
  obtain ⟨j, hj⟩ := Int.le.dest hle
  have hamount : (d - e - k).toNat = j := by omega
  rw [hamount]
  refine denotes_roundWithAccuracy (s / t) hx ?_ ?_
  · have hquotient : (m : ℚ) * 2 ^ d / (n * 2 ^ e) / 2 ^ k = ((m <<< j : ℕ) : ℚ) / n := by
      have hsplit : (2 : ℚ) ^ d = 2 ^ e * 2 ^ k * 2 ^ j := by
        rw [← zpow_natCast, ← zpow_add₀ (by norm_num), ← zpow_add₀ (by norm_num)]
        congr 1
        omega
      have hn' : (n : ℚ) ≠ 0 := by exact_mod_cast hn.ne'
      rw [Nat.shiftLeft_eq, hsplit]
      push_cast
      field_simp
    rw [hquotient]
    exact represents_fraction hn
  · have htotal := targetExponent_sub_le (d := d) (e := e) hm hn
    omega

theorem denotes_div (hu : Denotes u s x) (hv : Denotes v t y) (hy : y ≠ 0) :
    Denotes (UnpackedFloat.div Format.binary64 u v) (s / t) (roundedMagnitude (x / y)) := by
  cases hv with
  | zero => exact absurd rfl hy
  | finite _ hn hcn =>
    cases hu with
    | zero =>
      rw [zero_div, roundedMagnitude_zero]
      exact .zero _
    | finite _ hm hcm => exact denotes_div_finite s t hm hn

theorem signed_div (s t : Sign) (x y : ℚ) : signed (s / t) (x / y) = signed s x / signed t y := by
  cases s <;> cases t
  · exact (neg_div_neg_eq x y).symm
  · exact (neg_div y x).symm
  · exact (div_neg x).symm
  · rfl

/-- **A quotient** is rounded once, and stands there, also if it is beyond the limits. -/
theorem HasValue.hasRank_div (ha : HasValue a p) (hb : HasValue b q) (hq : q ≠ 0) :
    HasRank (a / b) (limited (rounded (p / q))) := by
  obtain ⟨s, x, ha, -, rfl⟩ := ha
  obtain ⟨t, y, hb, -, rfl⟩ := hb
  have hy : y ≠ 0 := by
    rintro rfl
    exact hq (signed_zero t)
  rw [← signed_div, rounded_signed (s / t) (div_nonneg ha.nonneg hb.nonneg)]
  exact hasRank_pack (denotes_div ha hb hy)

theorem HasValue.div (ha : HasValue a p) (hb : HasValue b q) (hq : q ≠ 0)
    (hlt : |rounded (p / q)| < 2 ^ (1024 : ℤ)) : HasValue (a / b) (rounded (p / q)) :=
  (ha.hasRank_div hb hq).hasValue hlt

variable {c : Float} {r : ℚ}

/-- **Dividing by a positive number keeps the order**, also where it leads to infinity. -/
theorem HasValue.div_le_div (ha : HasValue a p) (hb : HasValue b q) (hc : HasValue c r)
    (hr : 0 < r) (h : p ≤ q) : a / c ≤ b / c := by
  rw [(ha.hasRank_div hc hr.ne').le_iff (hb.hasRank_div hc hr.ne')]
  exact limited_mono (rounded_mono ((div_le_div_iff_of_pos_right hr).2 h))

/-- What has one value has one quotient. -/
theorem HasValue.div_beq_div (ha : HasValue a p) (hb : HasValue b p) (hc : HasValue c r)
    (hr : r ≠ 0) : a / c == b / c := by
  rw [(ha.hasRank_div hc hr).beq_iff (hb.hasRank_div hc hr)]

end FlowTriad.Double
