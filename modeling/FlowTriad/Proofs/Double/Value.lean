/-
`Proofs/Double/Value.lean` -- the number that a double is.

A double is stored as bits, and operations unpack them, compute and pack the result.
Nothing is lost on the way: a float in the form of a double is packed and unpacked to
itself, unless it is too large (`unpack_pack`). So a double can be said to have a value
(`HasValue`), and later proofs speak of values only.

Comparisons look at the sign, the exponent and the mantissa in this order. For floats in
the form of a double that is the order of the values (`HasValue.le_iff`), because the
greater of two exponents, not being the least, has a mantissa of full length.
-/
import FlowTriad.Proofs.Double.Mantissa

set_option autoImplicit false

namespace FlowTriad.Double

open Float.Model (Format totalExponent UnpackedFloat)
open Float.Model.UnpackedFloat

variable {s t : Sign} {u v : UnpackedFloat} {x y : ℚ}

/-! ## 1. Packing -/

/-- The bit that a mantissa of full length begins with is not stored. -/
theorem toNat_one_append (m : BitVec 52) : (1#1 ++ m).toNat = 2 ^ 52 + m.toNat := by
  rw [BitVec.toNat_append, ← Nat.shiftLeft_add_eq_or_of_lt m.isLt]
  rfl

/-- The exponent of a number in the form of a double and below `2 ^ 1024`. -/
theorem Canonical.exponent_le {m : ℕ} {e : ℤ} (h : Canonical m e)
    (hlt : (m : ℚ) * 2 ^ e < 2 ^ (1024 : ℤ)) : e ≤ 971 := by
  by_contra hexp
  have hlong : ((2 ^ 52 : ℕ) : ℚ) ≤ m := by exact_mod_cast h.two_pow_le (by omega)
  -- a mantissa of full length would carry it over the limit
  have hbig : (2 : ℚ) ^ (1024 : ℤ) ≤ m * 2 ^ e := by
    calc (2 : ℚ) ^ (1024 : ℤ) = ((2 ^ 52 : ℕ) : ℚ) * 2 ^ (972 : ℤ) := by
          rw [Nat.cast_pow, Nat.cast_ofNat, ← zpow_natCast, ← zpow_add₀ (by norm_num)]
          norm_num
      _ ≤ m * 2 ^ (972 : ℤ) := mul_le_mul_of_nonneg_right hlong (two_zpow_pos _).le
      _ ≤ m * 2 ^ e := by
          refine mul_le_mul_of_nonneg_left ?_ (Nat.cast_nonneg m)
          exact zpow_le_zpow_right₀ (by norm_num) (by omega)
  exact absurd hlt hbig.not_gt

theorem Canonical.lt_limit {m : ℕ} {e : ℤ} (h : Canonical m e) (he : e ≤ 971) :
    (m : ℚ) * 2 ^ e < 2 ^ (1024 : ℤ) := by
  have hlt : (m : ℚ) < ((2 ^ 53 : ℕ) : ℚ) := by exact_mod_cast h.lt_two_pow
  calc (m : ℚ) * 2 ^ e < ((2 ^ 53 : ℕ) : ℚ) * 2 ^ e :=
        mul_lt_mul_of_pos_right hlt (two_zpow_pos e)
    _ = 2 ^ (53 + e) := by
        rw [zpow_add₀ (by norm_num)]
        push_cast
        norm_num
    _ ≤ 2 ^ (1024 : ℤ) := zpow_le_zpow_right₀ (by norm_num) (by omega)

/-- Where the exponent is neither the least nor the greatest, the mantissa has its first
bit. -/
theorem unpack_normal (s : Sign) {e : BitVec 11} (m : BitVec 52) (hpos : 0 < e.toNat)
    (hlt : e.toNat < 2047) :
    unpack Format.binary64 (packComponents Format.binary64 s e m) =
      .finite s (2 ^ 52 + m.toNat) (e.toNat - 1075) (by omega) := by
  have hgreatest : e ≠ -1#11 := by
    rintro rfl
    exact absurd hlt (by decide)
  have hleast : e ≠ 0#11 := by
    rintro rfl
    exact absurd hpos (by decide)
  unfold unpack
  simp only [unpackExponent_packComponents, unpackMantissa_packComponents,
    unpackSign_packComponents, Sign.ofBitVec_toBitVec]
  rw [if_neg hgreatest, if_neg hleast]
  simp only [toNat_one_append]
  rfl

/-- With the least exponent it has not. -/
theorem unpack_subnormal (s : Sign) {m : BitVec 52} (hpos : 0 < m.toNat) :
    unpack Format.binary64 (packComponents Format.binary64 s 0#11 m) =
      .finite s m.toNat (-1074) hpos := by
  have hm : m ≠ 0#52 := by
    rintro rfl
    exact absurd hpos (by decide)
  unfold unpack
  simp only [unpackExponent_packComponents, unpackMantissa_packComponents,
    unpackSign_packComponents, Sign.ofBitVec_toBitVec]
  rw [if_neg (by decide), if_pos trivial, dif_neg hm]
  rfl

/-- A float in the form of a double, if it is below `2 ^ 1024`, survives packing. -/
theorem unpack_pack (h : Denotes u s x) (hlt : x < 2 ^ (1024 : ℤ)) :
    unpack Format.binary64 (pack Format.binary64 u) = u := by
  cases h with
  | zero => exact unpack_packedZero
  | @finite _ m e hm hcanonical =>
    have hexp := hcanonical.exponent_le hlt
    have hleast := hcanonical.least_le
    have hmantissa := hcanonical.lt_two_pow
    have hbiased : (e + Format.binary64.exponentBias +
        Format.binary64.mantissaBitsWithoutImplicit).toNat = (e + 1075).toNat := by
      congr 1
      show e + 1023 + 52 = e + 1075
      omega
    have hfits : ¬ 2 ^ Format.binary64.exponentBits ≤ (e + 1075).toNat + 1 := by
      show ¬ 2 ^ 11 ≤ (e + 1075).toNat + 1
      omega
    unfold pack
    simp only [hbiased]
    rw [if_neg hfits]
    by_cases hfull : m.log2 + 1 = Format.binary64.mantissaBits
    · -- of a mantissa of full length, all but the first bit is stored
      have hlong : 2 ^ 52 ≤ m := (Nat.le_log2 hm.ne').1 (Nat.le_of_succ_le_succ hfull.ge)
      have hexponent : (BitVec.ofNat 11 (e + 1075).toNat).toNat = (e + 1075).toNat := by
        rw [BitVec.toNat_ofNat, Nat.mod_eq_of_lt (by omega)]
      have hstored : 2 ^ 52 + (BitVec.ofNat 52 m).toNat = m := by
        rw [BitVec.toNat_ofNat, Nat.mod_eq_sub_mod hlong, Nat.mod_eq_of_lt (by omega)]
        omega
      rw [if_pos hfull, unpack_normal s _ (by omega) (by omega)]
      simp only [hexponent, hstored, UnpackedFloat.finite.injEq, true_and]
      omega
    · -- a mantissa that is not of full length belongs to the least exponent
      have hshort : m < 2 ^ 52 := by
        by_contra hlong
        have hlog : m.log2 = 52 := by
          have hle := (Nat.le_log2 hm.ne').2 (not_lt.1 hlong)
          have hlt := (Nat.log2_lt hm.ne').2 hmantissa
          omega
        exact hfull (by rw [hlog]; rfl)
      have hstored : (BitVec.ofNat 52 m).toNat = m := by
        rw [BitVec.toNat_ofNat, Nat.mod_eq_of_lt hshort]
      have hexponent : e = -1074 := by
        by_contra hne
        have hlong := hcanonical.two_pow_le (by omega)
        omega
      rw [if_neg hfull, unpack_subnormal s (by omega)]
      simp only [hstored, hexponent]

/-! ## 2. The order of values -/

/-- A number with a sign before it. -/
def signed : Sign → ℚ → ℚ
  | .negative, x => -x
  | .positive, x => x

@[simp] theorem signed_negative (x : ℚ) : signed .negative x = -x :=
  rfl

@[simp] theorem signed_positive (x : ℚ) : signed .positive x = x :=
  rfl

@[simp] theorem signed_zero (s : Sign) : signed s 0 = 0 := by
  cases s <;> simp

theorem Denotes.nonneg (h : Denotes u s x) : 0 ≤ x := by
  cases h with
  | zero => exact le_rfl
  | finite _ hm h => exact mul_nonneg (Nat.cast_nonneg _) (two_zpow_pos _).le

/-- Of two magnitudes, the one with the smaller exponent is smaller. -/
theorem Canonical.lt_of_exponent_lt {m n : ℕ} {d e : ℤ} (hm : Canonical m d)
    (hn : Canonical n e) (h : d < e) : (m : ℚ) * 2 ^ d < n * 2 ^ e := by
  have hleast := hm.least_le
  have hlt : (m : ℚ) < ((2 ^ 53 : ℕ) : ℚ) := by exact_mod_cast hm.lt_two_pow
  have hle : ((2 ^ 52 : ℕ) : ℚ) ≤ n := by exact_mod_cast hn.two_pow_le (by omega)
  calc (m : ℚ) * 2 ^ d < ((2 ^ 53 : ℕ) : ℚ) * 2 ^ d :=
        mul_lt_mul_of_pos_right hlt (two_zpow_pos d)
    _ = ((2 ^ 52 : ℕ) : ℚ) * 2 ^ (d + 1) := by
        rw [zpow_add_one₀ (by norm_num)]
        push_cast
        ring
    _ ≤ ((2 ^ 52 : ℕ) : ℚ) * 2 ^ e :=
        mul_le_mul_of_nonneg_left (zpow_le_zpow_right₀ (by norm_num) (by omega)) (by positivity)
    _ ≤ n * 2 ^ e := mul_le_mul_of_nonneg_right hle (two_zpow_pos e).le

/-- Exponents first, then mantissas: that is the order of the magnitudes. -/
theorem Canonical.compare_eq {m n : ℕ} {d e : ℤ} (hm : Canonical m d) (hn : Canonical n e) :
    (compare d e).then (compare m n) = compare ((m : ℚ) * 2 ^ d) (n * 2 ^ e) := by
  -- with equal exponents the mantissas decide, as both count the same unit
  obtain hlt | rfl | hgt := lt_trichotomy d e
  · rw [compare_lt_iff_lt.2 hlt, compare_lt_iff_lt.2 (hm.lt_of_exponent_lt hn hlt)]
    rfl
  · rw [compare_eq_iff_eq.2 rfl]
    show compare m n = _
    obtain hlt | rfl | hgt := lt_trichotomy m n
    · rw [compare_lt_iff_lt.2 hlt, compare_lt_iff_lt.2]
      exact mul_lt_mul_of_pos_right (by exact_mod_cast hlt) (two_zpow_pos d)
    · rw [compare_eq_iff_eq.2 rfl, compare_eq_iff_eq.2 rfl]
    · rw [compare_gt_iff_gt.2 hgt, compare_gt_iff_gt.2]
      exact mul_lt_mul_of_pos_right (by exact_mod_cast hgt) (two_zpow_pos d)
  · rw [compare_gt_iff_gt.2 hgt, compare_gt_iff_gt.2 (hn.lt_of_exponent_lt hm hgt)]
    rfl

/-- The order turns round with the sign. -/
theorem compare_neg_neg (x y : ℚ) : compare (-x) (-y) = (compare x y).swap := by
  obtain hlt | rfl | hgt := lt_trichotomy x y
  · rw [compare_lt_iff_lt.2 hlt, compare_gt_iff_gt.2 (neg_lt_neg hlt)]
    rfl
  · rw [compare_eq_iff_eq.2 rfl, compare_eq_iff_eq.2 rfl]
    rfl
  · rw [compare_gt_iff_gt.2 hgt, compare_lt_iff_lt.2 (neg_lt_neg hgt)]
    rfl

/-- **Comparing.** Floats in the form of a double compare as their values do. -/
theorem compare_eq (hu : Denotes u s x) (hv : Denotes v t y) :
    u.compare v = some (compare (signed s x) (signed t y)) := by
  cases hu with
  | zero =>
    rw [signed_zero]
    cases hv with
    | zero =>
      rw [signed_zero, compare_eq_iff_eq.2 rfl]
      rfl
    | @finite _ n e hn hcn =>
      have hpos : 0 < (n : ℚ) * 2 ^ e := mul_pos (by exact_mod_cast hn) (two_zpow_pos e)
      cases t with
      | negative =>
        rw [signed_negative, compare_gt_iff_gt.2 (neg_lt_zero.2 hpos)]
        rfl
      | positive =>
        rw [signed_positive, compare_lt_iff_lt.2 hpos]
        rfl
  | @finite _ m d hm hcm =>
    have hpos : 0 < (m : ℚ) * 2 ^ d := mul_pos (by exact_mod_cast hm) (two_zpow_pos d)
    cases hv with
    | zero =>
      rw [signed_zero]
      cases s with
      | negative =>
        rw [signed_negative, compare_lt_iff_lt.2 (neg_lt_zero.2 hpos)]
        rfl
      | positive =>
        rw [signed_positive, compare_gt_iff_gt.2 hpos]
        rfl
    | @finite _ n e hn hcn =>
      have hpos' : 0 < (n : ℚ) * 2 ^ e := mul_pos (by exact_mod_cast hn) (two_zpow_pos e)
      -- the signs decide first, and of equal signs the magnitudes do
      cases s with
      | negative =>
        cases t with
        | negative =>
          rw [signed_negative, signed_negative, compare_neg_neg, ← hcm.compare_eq hcn]
          rfl
        | positive =>
          rw [signed_negative, signed_positive,
            compare_lt_iff_lt.2 ((neg_lt_zero.2 hpos).trans hpos')]
          rfl
      | positive =>
        cases t with
        | negative =>
          rw [signed_negative, signed_positive,
            compare_gt_iff_gt.2 ((neg_lt_zero.2 hpos').trans hpos)]
          rfl
        | positive =>
          rw [signed_positive, signed_positive, ← hcm.compare_eq hcn]
          rfl

/-! ## 3. The value of a double -/

/-- That a double is finite and has a value. -/
def HasValue (a : Float) (q : ℚ) : Prop :=
  ∃ s x, Denotes a.toModel.unpack s x ∧ x < 2 ^ (1024 : ℤ) ∧ q = signed s x

theorem hasValue_pack (h : Denotes u s x) (hlt : x < 2 ^ (1024 : ℤ)) :
    HasValue (.ofModel (.pack u)) (signed s x) := by
  refine ⟨s, x, ?_, hlt, rfl⟩
  have hunpack : (Float.Model.pack u).unpack = u := unpack_pack h hlt
  show Denotes (Float.Model.pack u).unpack s x
  rw [hunpack]
  exact h

/-- The value of a double that is unpacked to a finite float. -/
theorem hasValue_of_unpack {a : Float} {m : ℕ} {e : ℤ} {hm : 0 < m}
    (h : a.toModel.unpack = .finite s m e hm) (hcanonical : Canonical m e) (he : e ≤ 971) :
    HasValue a (signed s (m * 2 ^ e)) := by
  refine ⟨s, m * 2 ^ e, ?_, hcanonical.lt_limit he, rfl⟩
  rw [h]
  exact .finite _ hm hcanonical

/-- **The value of a positive double.** Of a number in the source text, its parts are found
by running the definition, and what is left is that they make the number. -/
theorem hasValue_of_positive {a : Float} {q : ℚ} {m : ℕ} {e : ℤ} {hm : 0 < m}
    (h : a.toModel.unpack = .finite .positive m e hm) (hcanonical : Canonical m e)
    (he : e ≤ 971) (hq : (m : ℚ) * 2 ^ e = q) : HasValue a q := by
  rw [← hq, ← signed_positive ((m : ℚ) * 2 ^ e)]
  exact hasValue_of_unpack h hcanonical he

theorem rounded_signed (s : Sign) (hx : 0 ≤ x) :
    rounded (signed s x) = signed s (roundedMagnitude x) := by
  cases s with
  | negative => rw [signed_negative, signed_negative, rounded_neg, rounded_of_nonneg hx]
  | positive => rw [signed_positive, signed_positive, rounded_of_nonneg hx]

theorem abs_signed (s : Sign) (hx : 0 ≤ x) : |signed s x| = x := by
  cases s with
  | negative => rw [signed_negative, abs_neg, abs_of_nonneg hx]
  | positive => rw [signed_positive, abs_of_nonneg hx]

theorem signed_ne_zero (s : Sign) (hx : 0 < x) : signed s x ≠ 0 :=
  abs_ne_zero.1 (by rw [abs_signed s hx.le]; exact hx.ne')

variable {a b : Float} {p q : ℚ}

/-- A float that has been rounded is a double, unless it is too large. -/
theorem hasValue_rounded (h : Denotes u s (roundedMagnitude x)) (hx : 0 ≤ x)
    (hq : q = signed s x) (hlt : |rounded q| < 2 ^ (1024 : ℤ)) :
    HasValue (.ofModel (.pack u)) (rounded q) := by
  rw [hq, rounded_signed s hx] at hlt ⊢
  rw [abs_signed s (roundedMagnitude_nonneg hx)] at hlt
  exact hasValue_pack h hlt

/-! ## 4. The order of doubles

An infinity has no value, but it has a place among the values: the power of two that they
do not reach. -/

/-- That a float is a double or an infinity, and which sign and magnitude it has in the
order. -/
inductive Ranks : UnpackedFloat → Sign → ℚ → Prop
  | value {u : UnpackedFloat} {s : Sign} {x : ℚ} (h : Denotes u s x)
      (hlt : x < 2 ^ (1024 : ℤ)) : Ranks u s x
  | infinity (s : Sign) : Ranks (.infinity s) s (2 ^ (1024 : ℤ))

theorem signed_lt_of_lt (s : Sign) {y : ℚ} (hx : 0 ≤ x) (h : x < y) : signed s x < y := by
  cases s with
  | negative => exact (neg_nonpos.2 hx).trans_lt (hx.trans_lt h)
  | positive => exact h

theorem neg_lt_signed_of_lt (s : Sign) {y : ℚ} (hx : 0 ≤ x) (h : x < y) : -y < signed s x := by
  cases s with
  | negative => exact neg_lt_neg h
  | positive => exact (neg_lt_zero.2 (hx.trans_lt h)).trans_le hx

/-- Floats compare as they rank. -/
theorem Ranks.compare_eq (hu : Ranks u s x) (hv : Ranks v t y) :
    u.compare v = some (compare (signed s x) (signed t y)) := by
  have hlimit : (0 : ℚ) < 2 ^ (1024 : ℤ) := two_zpow_pos _
  -- an infinity is beyond every value, on the side of its sign
  cases hu with
  | value hu hx =>
    cases hv with
    | value hv hy => exact Double.compare_eq hu hv
    | infinity =>
      cases t with
      | negative =>
        rw [signed_negative, compare_gt_iff_gt.2 (neg_lt_signed_of_lt s hu.nonneg hx)]
        cases hu <;> rfl
      | positive =>
        rw [signed_positive, compare_lt_iff_lt.2 (signed_lt_of_lt s hu.nonneg hx)]
        cases hu <;> rfl
  | infinity =>
    cases hv with
    | value hv hy =>
      cases s with
      | negative =>
        rw [signed_negative, compare_lt_iff_lt.2 (neg_lt_signed_of_lt t hv.nonneg hy)]
        cases hv <;> rfl
      | positive =>
        rw [signed_positive, compare_gt_iff_gt.2 (signed_lt_of_lt t hv.nonneg hy)]
        cases hv <;> rfl
    | infinity =>
      cases s with
      | negative =>
        cases t with
        | negative =>
          rw [compare_eq_iff_eq.2 rfl]
          rfl
        | positive =>
          rw [signed_negative, signed_positive,
            compare_lt_iff_lt.2 ((neg_lt_zero.2 hlimit).trans hlimit)]
          rfl
      | positive =>
        cases t with
        | negative =>
          rw [signed_negative, signed_positive,
            compare_gt_iff_gt.2 ((neg_lt_zero.2 hlimit).trans hlimit)]
          rfl
        | positive =>
          rw [compare_eq_iff_eq.2 rfl]
          rfl

/-- That a double is no NaN, and where it stands in the order. -/
def HasRank (a : Float) (q : ℚ) : Prop :=
  ∃ s x, Ranks a.toModel.unpack s x ∧ q = signed s x

theorem HasValue.abs_lt_limit (h : HasValue a q) : |q| < 2 ^ (1024 : ℤ) := by
  obtain ⟨s, x, hdenotes, hlt, rfl⟩ := h
  rwa [abs_signed s hdenotes.nonneg]

theorem HasValue.hasRank (h : HasValue a q) : HasRank a q := by
  obtain ⟨s, x, hdenotes, hlt, rfl⟩ := h
  exact ⟨s, x, .value hdenotes hlt, rfl⟩

theorem HasRank.compare_eq (ha : HasRank a p) (hb : HasRank b q) :
    a.toModel.unpack.compare b.toModel.unpack = some (compare p q) := by
  obtain ⟨s, x, ha, rfl⟩ := ha
  obtain ⟨t, y, hb, rfl⟩ := hb
  exact ha.compare_eq hb

theorem HasRank.le_iff (ha : HasRank a p) (hb : HasRank b q) : a ≤ b ↔ p ≤ q := by
  show decide (a.toModel.unpack.le b.toModel.unpack = true) = true ↔ _
  rw [decide_eq_true_eq]
  unfold UnpackedFloat.le
  -- both sides are now questions about one comparison of the ranks
  rw [ha.compare_eq hb, ← not_lt, ← compare_gt_iff_gt (a := p)]
  generalize compare p q = order
  cases order <;> decide

theorem HasRank.lt_iff (ha : HasRank a p) (hb : HasRank b q) : a < b ↔ p < q := by
  show decide (a.toModel.unpack.lt b.toModel.unpack = true) = true ↔ _
  rw [decide_eq_true_eq]
  unfold UnpackedFloat.lt
  rw [ha.compare_eq hb, ← compare_lt_iff_lt (a := p)]
  generalize compare p q = order
  cases order <;> decide

theorem HasRank.beq_iff (ha : HasRank a p) (hb : HasRank b q) : a == b ↔ p = q := by
  show a.toModel.unpack.beq b.toModel.unpack = true ↔ _
  unfold UnpackedFloat.beq
  rw [ha.compare_eq hb, ← compare_eq_iff_eq (a := p)]
  generalize compare p q = order
  cases order <;> decide

theorem HasValue.le_iff (ha : HasValue a p) (hb : HasValue b q) : a ≤ b ↔ p ≤ q :=
  ha.hasRank.le_iff hb.hasRank

theorem HasValue.lt_iff (ha : HasValue a p) (hb : HasValue b q) : a < b ↔ p < q :=
  ha.hasRank.lt_iff hb.hasRank

theorem HasValue.beq_iff (ha : HasValue a p) (hb : HasValue b q) : a == b ↔ p = q :=
  ha.hasRank.beq_iff hb.hasRank

/-- The nearest number within the limits of doubles. -/
def limited (q : ℚ) : ℚ :=
  max (-2 ^ (1024 : ℤ)) (min q (2 ^ (1024 : ℤ)))

theorem limited_mono {p q : ℚ} (h : p ≤ q) : limited p ≤ limited q :=
  max_le_max le_rfl (min_le_min h le_rfl)

theorem limited_nonneg (h : 0 ≤ q) : 0 ≤ limited q :=
  le_max_of_le_right (le_min h (two_zpow_pos _).le)

/-- Within the limits a number is left as it is. -/
theorem limited_signed_of_lt (s : Sign) (hx : 0 ≤ x) (h : x < 2 ^ (1024 : ℤ)) :
    limited (signed s x) = signed s x := by
  unfold limited
  rw [min_eq_left (signed_lt_of_lt s hx h).le, max_eq_right (neg_lt_signed_of_lt s hx h).le]

/-- Beyond them it becomes the limit on its side. -/
theorem limited_signed_of_le (s : Sign) (h : 2 ^ (1024 : ℤ) ≤ x) :
    limited (signed s x) = signed s (2 ^ (1024 : ℤ)) := by
  have hlimit : (0 : ℚ) < 2 ^ (1024 : ℤ) := two_zpow_pos _
  unfold limited
  cases s with
  | negative =>
    have hneg : -x ≤ -2 ^ (1024 : ℤ) := neg_le_neg h
    rw [signed_negative, signed_negative, min_eq_left (hneg.trans (neg_lt_self hlimit).le),
      max_eq_left hneg]
  | positive =>
    rw [signed_positive, signed_positive, min_eq_right h, max_eq_right (neg_lt_self hlimit).le]

/-- A double has one place in the order. -/
theorem HasRank.eq (h : HasRank a p) (h' : HasRank a q) : p = q :=
  (h.beq_iff h').1 ((h'.beq_iff h').2 rfl)

/-- An infinity is packed to itself. -/
theorem unpack_packedInfinity (s : Sign) :
    unpack Format.binary64 (packedInfinity Format.binary64 s) = .infinity s := by
  unfold packedInfinity unpack
  simp only [unpackExponent_packComponents, unpackMantissa_packComponents,
    unpackSign_packComponents, Sign.ofBitVec_toBitVec]
  rfl

/-- A float in the form of a double, if it is not below `2 ^ 1024`, is packed to infinity. -/
theorem unpack_pack_of_le (h : Denotes u s x) (hle : 2 ^ (1024 : ℤ) ≤ x) :
    unpack Format.binary64 (pack Format.binary64 u) = .infinity s := by
  cases h with
  | zero => exact absurd hle (two_zpow_pos _).not_ge
  | @finite _ m e hm hcanonical =>
    have hexp : 971 < e := by
      by_contra hexp
      exact absurd hle (hcanonical.lt_limit (not_lt.1 hexp)).not_ge
    have hlarge : 2 ^ Format.binary64.exponentBits ≤ (e + Format.binary64.exponentBias +
        Format.binary64.mantissaBitsWithoutImplicit).toNat + 1 := by
      show 2 ^ 11 ≤ (e + 1023 + 52).toNat + 1
      omega
    unfold pack
    simp only
    rw [if_pos hlarge]
    exact unpack_packedInfinity s

theorem hasRank_of_unpack_infinity (h : (Float.Model.pack u).unpack = .infinity s) :
    HasRank (.ofModel (.pack u)) (signed s (2 ^ (1024 : ℤ))) := by
  refine ⟨s, 2 ^ (1024 : ℤ), ?_, rfl⟩
  show Ranks (Float.Model.pack u).unpack s _
  rw [h]
  exact .infinity s

/-- The double that an infinity is packed to. -/
theorem hasRank_infinity (s : Sign) :
    HasRank (.ofModel (.pack (.infinity s))) (signed s (2 ^ (1024 : ℤ))) :=
  hasRank_of_unpack_infinity (unpack_packedInfinity s)

/-- **Packing** keeps what is within the limits, and leaves infinity of all else. -/
theorem hasRank_pack (h : Denotes u s x) :
    HasRank (.ofModel (.pack u)) (limited (signed s x)) := by
  obtain hlt | hle := lt_or_ge x (2 ^ (1024 : ℤ))
  · rw [limited_signed_of_lt s h.nonneg hlt]
    exact (hasValue_pack h hlt).hasRank
  · rw [limited_signed_of_le s hle]
    exact hasRank_of_unpack_infinity (unpack_pack_of_le h hle)

/-- **What has a place in the order** has a value or is an infinity. -/
theorem HasRank.cases (h : HasRank a q) :
    HasValue a q ∨ ∃ s, a.toModel.unpack = .infinity s ∧ q = signed s (2 ^ (1024 : ℤ)) := by
  obtain ⟨s, x, hranks, rfl⟩ := h
  generalize hu : a.toModel.unpack = u at hranks
  cases hranks with
  | value hdenotes hlt => exact .inl ⟨s, x, hu ▸ hdenotes, hlt, rfl⟩
  | infinity => exact .inr ⟨s, rfl, rfl⟩

/-- Of infinities, only the positive one is not negative. -/
theorem HasRank.cases_of_nonneg (h : HasRank a q) (hq : 0 ≤ q) :
    HasValue a q ∨ a.toModel.unpack = .infinity .positive ∧ q = 2 ^ (1024 : ℤ) := by
  rcases h.cases with hvalue | ⟨s, hinfinite, rfl⟩
  · exact .inl hvalue
  · cases s with
    | negative => exact absurd hq (neg_lt_zero.2 (two_zpow_pos _)).not_ge
    | positive => exact .inr ⟨hinfinite, rfl⟩

/-- What stands within the limits has that value. -/
theorem HasRank.hasValue (h : HasRank a (limited q)) (hlt : |q| < 2 ^ (1024 : ℤ)) :
    HasValue a q := by
  rcases abs_lt.1 hlt with ⟨hlower, hupper⟩
  have hlimited : limited q = q := by
    unfold limited
    rw [min_eq_left hupper.le, max_eq_right hlower.le]
  rw [hlimited] at h
  rcases h.cases with hvalue | ⟨s, -, rfl⟩
  · exact hvalue
  · rw [abs_signed s (two_zpow_pos _).le] at hlt
    exact absurd hlt (lt_irrefl _)

end FlowTriad.Double
