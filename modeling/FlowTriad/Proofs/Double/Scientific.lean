/-
`Proofs/Double/Scientific.lean` -- doubles from decimal numbers.

A whole number times a power of ten is made a double in one of two ways. Where both fit into a
double as they are, they are multiplied or divided as doubles, and that rounds once. In all
other cases the product or the quotient is computed from the whole numbers, however large they
are, and rounded at the end. A number so small that neither is worth computing is taken for
zero, which is what it is rounded to.

So the double is the nearest one in every case (`hasValue_ofScientific`), and of a whole number
as well, with or without a sign (`hasValue_ofInt`).
-/
import FlowTriad.Proofs.Double.Finite
import FlowTriad.Proofs.Double.Operations

set_option autoImplicit false

namespace FlowTriad.Double

open Float.Model (Format UnpackedFloat)
open Float.Model.UnpackedFloat

variable {m n k : ℕ} {e : ℤ} {x : ℚ} {a : Float}

/-! ## 1. Powers of ten -/

theorem ten_zpow_pos (k : ℤ) : (0 : ℚ) < 10 ^ k :=
  zpow_pos (by norm_num) k

/-- Whether the parts of a double are those of a whole number. -/
def isWholeNumber (n : ℕ) : Decimal.Parts → Bool
  | .finite false m q => decide (-52 ≤ q) && m * 2 ^ (q + 52).toNat == n * 2 ^ 52
  | _ => false

theorem hasValue_of_isWholeNumber (h : isWholeNumber n (Decimal.Parts.of a)) : HasValue a n := by
  cases hparts : Decimal.Parts.of a with
  | nan => simp [hparts, isWholeNumber] at h
  | infinite negative => simp [hparts, isWholeNumber] at h
  | finite negative m q =>
    cases negative with
    | true => simp [hparts, isWholeNumber] at h
    | false =>
      simp only [hparts, isWholeNumber, Bool.and_eq_true, decide_eq_true_eq, beq_iff_eq] at h
      obtain ⟨hq, heq⟩ := h
      obtain ⟨j, hj⟩ := Int.le.dest hq
      have hamount : (q + 52).toNat = j := by omega
      rw [hamount] at heq
      have hcast : (m : ℚ) * 2 ^ j = n * 2 ^ 52 := by exact_mod_cast heq
      have hvalue : (m : ℚ) * 2 ^ q = n := by
        rw [← hj, zpow_add₀ (by norm_num), zpow_natCast, mul_left_comm, hcast, mul_left_comm]
        norm_num
      have hparts := hasValue_of_parts hparts
      rwa [show signOf false = .positive from rfl, signed_positive, hvalue] at hparts

/-- The powers of ten that fit into a double are kept in a table. -/
theorem hasValue_powerOfTen (hk : k < 23) :
    HasValue Float.exactlyRepresentablePowersOfTen[k] (10 ^ k) := by
  have htable : ∀ k : Fin 23, isWholeNumber (10 ^ k.val)
      (Decimal.Parts.of Float.exactlyRepresentablePowersOfTen[k]) := by decide +kernel
  have hvalue := hasValue_of_isWholeNumber (htable ⟨k, hk⟩)
  rwa [Nat.cast_pow, Nat.cast_ofNat] at hvalue

/-! ## 2. Very small numbers -/

/-- Less than half the least unit is nothing. -/
theorem roundedMagnitude_eq_zero (hx : 0 ≤ x) (h : x < 2 ^ (-1075 : ℤ)) :
    roundedMagnitude x = 0 := by
  obtain rfl | hpos := hx.eq_or_lt
  · exact roundedMagnitude_zero
  · have hunit : unitExponent x = -1074 := by
      refine (unitExponent_le hpos le_rfl (h.trans ?_)).antisymm (least_le_unitExponent x)
      exact zpow_lt_zpow_right₀ (by norm_num) (by norm_num)
    have hhalf : x / 2 ^ (-1074 : ℤ) < 1 / 2 := by
      rw [div_lt_iff₀ (two_zpow_pos _)]
      refine h.trans_eq ?_
      rw [show (-1075 : ℤ) = -1 + -1074 by norm_num, zpow_add₀ (by norm_num), zpow_neg_one,
        one_div]
    have hnonneg : 0 ≤ x / 2 ^ (-1074 : ℤ) := div_nonneg hx (two_zpow_pos _).le
    have hnear : nearestEven (x / 2 ^ (-1074 : ℤ)) = 0 := by
      generalize x / 2 ^ (-1074 : ℤ) = y at hhalf hnonneg
      apply nearestEven_eq_of_near
      · push_cast
        linarith only [hnonneg]
      · push_cast
        linarith only [hhalf]
      · exact fun _ => rfl
    unfold roundedMagnitude
    rw [hunit, hnear, Int.cast_zero, zero_mul]

/-- A tenth is less than a half, so a negative power of ten outweighs the bits of a number that
are fewer. -/
theorem mul_ten_zpow_neg_lt (m k : ℕ) (h : 2 ^ 11 + m.log2 < k) :
    (m : ℚ) * 10 ^ (-(k : ℤ)) < 2 ^ (-1075 : ℤ) := by
  have hbits : (m : ℚ) < ((2 ^ (m.log2 + 1) : ℕ) : ℚ) := by exact_mod_cast Nat.lt_log2_self
  have hpower : (10 : ℚ) ^ (-(k : ℤ)) ≤ 2 ^ (-(k : ℤ)) := by
    rw [zpow_neg, zpow_neg, zpow_natCast, zpow_natCast]
    gcongr
    norm_num
  calc (m : ℚ) * 10 ^ (-(k : ℤ)) ≤ m * 2 ^ (-(k : ℤ)) :=
        mul_le_mul_of_nonneg_left hpower (Nat.cast_nonneg m)
    _ < ((2 ^ (m.log2 + 1) : ℕ) : ℚ) * 2 ^ (-(k : ℤ)) :=
        mul_lt_mul_of_pos_right hbits (two_zpow_pos _)
    _ = 2 ^ ((m.log2 + 1 : ℕ) - (k : ℤ)) := by
        rw [sub_eq_add_neg, zpow_add₀ (by norm_num), zpow_natCast]
        push_cast
        rfl
    _ ≤ 2 ^ (-1075 : ℤ) := zpow_le_zpow_right₀ (by norm_num) (by omega)

/-! ## 3. Decimal numbers -/

/-- A whole power of ten is multiplied by. -/
theorem denotes_ofScientific (hpos : 0 < n) (hk : k ≤ 2 ^ 11) :
    Denotes (UnpackedFloat.ofScientific Format.binary64 n k) .positive
      (roundedMagnitude (n * 10 ^ k)) := by
  have hfactor : 0 < n <<< 53 := by
    rw [Nat.shiftLeft_eq]
    positivity
  have hpower : 0 < 10 ^ k := Nat.pow_pos (by norm_num)
  have hproduct :
      ((n <<< 53 : ℕ) : ℚ) * 2 ^ (-53 : ℤ) * ((10 ^ k : ℕ) * 2 ^ (0 : ℤ)) = n * 10 ^ k := by
    rw [Nat.shiftLeft_eq]
    push_cast
    rw [mul_assoc (n : ℚ)]
    norm_num
  have hunit : (-53 : ℤ) + 0 ≤
      unitExponent (((n <<< 53 : ℕ) : ℚ) * 2 ^ (-53 : ℤ) * ((10 ^ k : ℕ) * 2 ^ (0 : ℤ))) := by
    rw [hproduct]
    apply le_unitExponent
    have hone : (1 : ℚ) ≤ n * 10 ^ k := by exact_mod_cast Nat.mul_pos hpos hpower
    exact le_trans (by norm_num) hone
  have hmul : Denotes (UnpackedFloat.mul Format.binary64
      (.finite .positive (n <<< 53) (-53) hfactor) (.finite .positive (10 ^ k) 0 hpower))
      (.positive * .positive) _ := denotes_mul_finite .positive .positive hfactor hpower hunit
  rw [hproduct] at hmul
  -- no number is too large or too small here to be multiplied out
  have hlarge : ¬ (k : ℤ) > 2 ^ Format.binary64.exponentBits := by
    show ¬ (k : ℤ) > 2 ^ 11
    omega
  have hsmall : ¬ (k : ℤ) < -((2 ^ Format.binary64.exponentBits : ℤ) + n.log2) := by
    show ¬ (k : ℤ) < -(2 ^ 11 + (n.log2 : ℤ))
    omega
  unfold UnpackedFloat.ofScientific
  rw [dif_neg hpos.ne', if_neg hlarge, if_neg hsmall, if_pos (Int.natCast_nonneg k)]
  exact hmul

/-- A power of ten below one is divided by, unless so little is left that it need not be. -/
theorem denotes_ofScientific_neg (hm : 0 < m) (hk : 0 < k) :
    Denotes (UnpackedFloat.ofScientific Format.binary64 m (-(k : ℤ))) .positive
      (roundedMagnitude (m * 10 ^ (-(k : ℤ)))) := by
  have hlarge : ¬ (-(k : ℤ) > 2 ^ Format.binary64.exponentBits) := by
    show ¬ (-(k : ℤ) > 2 ^ 11)
    omega
  unfold UnpackedFloat.ofScientific
  rw [dif_neg hm.ne', if_neg hlarge]
  by_cases hsmall : -(k : ℤ) < -((2 ^ Format.binary64.exponentBits : ℤ) + m.log2)
  · have hbits : 2 ^ 11 + m.log2 < k := by
      have hsmall' : -(k : ℤ) < -(2 ^ 11 + (m.log2 : ℤ)) := hsmall
      omega
    have hnonneg : 0 ≤ (m : ℚ) * 10 ^ (-(k : ℤ)) :=
      mul_nonneg (Nat.cast_nonneg m) (ten_zpow_pos _).le
    rw [if_pos hsmall, roundedMagnitude_eq_zero hnonneg (mul_ten_zpow_neg_lt m k hbits)]
    exact .zero _
  · have hquotient : (m : ℚ) * 10 ^ (-(k : ℤ)) =
        m * 2 ^ (0 : ℤ) / ((10 ^ k : ℕ) * 2 ^ (0 : ℤ)) := by
      rw [zpow_neg, zpow_natCast]
      push_cast
      norm_num
      rfl
    have hpower : (-(-(k : ℤ))).toNat = k := by omega
    rw [if_neg hsmall, if_neg (by omega)]
    simp only [hpower]
    rw [hquotient]
    exact denotes_div_finite .positive .positive hm (Nat.pow_pos (by norm_num))

/-- Where the exponent is not too large, the number that is computed from whole numbers is the
rounded one. -/
theorem denotes_scientific (m : ℕ) (he : e ≤ 2 ^ 11) :
    Denotes (UnpackedFloat.ofScientific Format.binary64 m e) .positive
      (roundedMagnitude (m * 10 ^ e)) := by
  obtain rfl | hm := Nat.eq_zero_or_pos m
  · rw [Nat.cast_zero, zero_mul, roundedMagnitude_zero]
    exact .zero _
  · obtain hneg | hnonneg := lt_or_ge e 0
    · obtain ⟨k, rfl⟩ := Int.exists_eq_neg_ofNat hneg.le
      exact denotes_ofScientific_neg hm (by omega)
    · obtain ⟨k, rfl⟩ := Int.eq_ofNat_of_zero_le hnonneg
      rw [zpow_natCast]
      exact denotes_ofScientific hm (by omega)

/-- **A decimal number made a double** is rounded. -/
theorem hasValue_ofScientific (m : ℕ) (he : e ≤ 2 ^ 11)
    (hlt : |rounded (m * 10 ^ e)| < 2 ^ (1024 : ℤ)) :
    HasValue (Float.ofScientific m (decide (e < 0)) e.natAbs) (rounded (m * 10 ^ e)) := by
  unfold Float.ofScientific
  by_cases hfits : m < 2 ^ 53 ∧ e.natAbs ≤ 22
  · -- both are doubles as they are, so one operation rounds once
    rw [dif_pos hfits]
    have hnumber := hasValue_toFloat hfits.1
    have hpower := hasValue_powerOfTen (Nat.lt_succ_of_le hfits.2)
    by_cases hneg : e < 0
    · have hvalue : (m : ℚ) * 10 ^ e = m / 10 ^ e.natAbs := by
        rw [div_eq_mul_inv, ← zpow_natCast, ← zpow_neg, show -(e.natAbs : ℤ) = e by omega]
      rw [hvalue] at hlt ⊢
      simp only [hneg, decide_true, if_true]
      exact hnumber.div hpower (pow_ne_zero _ (by norm_num)) hlt
    · have hvalue : (m : ℚ) * 10 ^ e = m * 10 ^ e.natAbs := by
        rw [← zpow_natCast, show (e.natAbs : ℤ) = e by omega]
      rw [hvalue] at hlt ⊢
      simp only [hneg, decide_false, Bool.false_eq_true, if_false]
      exact hnumber.mul hpower hlt
  · rw [dif_neg hfits]
    have hexponent : (if decide (e < 0) then Int.negOfNat e.natAbs else Int.ofNat e.natAbs) = e := by
      by_cases hneg : e < 0
      · rw [if_pos (decide_eq_true hneg), Int.negOfNat_eq, Int.ofNat_eq_natCast]
        omega
      · rw [if_neg (by simpa using hneg), Int.ofNat_eq_natCast]
        omega
    rw [hexponent]
    exact hasValue_rounded (denotes_scientific m he)
      (mul_nonneg (Nat.cast_nonneg m) (ten_zpow_pos e).le) rfl hlt

/-! ## 4. Whole numbers -/

/-- **A whole number made a double** is rounded. -/
theorem hasValue_ofNat {n : ℕ} (hlt : |rounded n| < 2 ^ (1024 : ℤ)) :
    HasValue (Float.ofNat n) (rounded n) := by
  have hwhole : (n : ℚ) * 10 ^ (0 : ℤ) = n := by rw [zpow_zero, mul_one]
  have hvalue := hasValue_ofScientific n (e := 0) (by norm_num) (by rwa [hwhole])
  rw [hwhole] at hvalue
  exact hvalue

/-- The same with a sign. -/
theorem hasValue_ofInt {n : ℤ} (hlt : |rounded n| < 2 ^ (1024 : ℤ)) :
    HasValue (Float.ofInt n) (rounded n) := by
  cases n with
  | ofNat n =>
    simp only [Int.ofNat_eq_natCast, Int.cast_natCast] at hlt ⊢
    exact hasValue_ofNat hlt
  | negSucc n =>
    have hcast : ((Int.negSucc n : ℤ) : ℚ) = -((n + 1 : ℕ) : ℚ) := by
      push_cast [Int.negSucc_eq]
      ring
    rw [hcast, rounded_neg] at hlt ⊢
    rw [abs_neg] at hlt
    exact (hasValue_ofNat hlt).neg

end FlowTriad.Double
