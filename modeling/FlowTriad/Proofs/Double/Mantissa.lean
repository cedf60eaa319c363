/-
`Proofs/Double/Mantissa.lean` -- rounding as it is done on bits.

Operations on doubles compute a mantissa of many bits and drop the lower ones. Two more
bits are kept while they do: the last one dropped, and whether there was a one among
those before it. Together they know as much of the exact number as rounding asks for:
the half that it is in, and whether it is on the border (`Represents`). Dropping one more
bit keeps this, and so does dropping any number of them.

What comes out is then the number that `Rounding` speaks of, in the form in which a
double is stored (`denotes_roundWithAccuracy`). A mantissa that rounding has made one bit
too long is a power of two, so the last shift drops nothing.
-/
import FlowTriad.Proofs.Double.Rounding
import Mathlib

set_option autoImplicit false

namespace FlowTriad.Double

open Float.Model (Format totalExponent UnpackedFloat)
open Float.Model.UnpackedFloat

/-! ## 1. What the bits know -/

/-- The half that a number is in, and whether it is on its border. -/
structure Represents (em : ExtendedMantissa) (q : ℚ) : Prop where
  floor : ⌊2 * q⌋ = 2 * em.mantissa + em.roundBit.toNat
  sticky : em.stickyBit = false ↔ (⌊2 * q⌋ : ℚ) = 2 * q

variable {em : ExtendedMantissa} {q x : ℚ}

theorem represents_exact (m : ℕ) :
    Represents (ExtendedMantissa.ofMantissaAndAccuracy m .exact) m := by
  have hfloor : ⌊2 * (m : ℚ)⌋ = 2 * m := by
    rw [show 2 * (m : ℚ) = ((2 * m : ℤ) : ℚ) by push_cast; ring, Int.floor_intCast]
  constructor
  · rw [hfloor]
    simp [ExtendedMantissa.ofMantissaAndAccuracy]
  · rw [hfloor]
    simp [ExtendedMantissa.ofMantissaAndAccuracy]

/-- The bits above the two are the whole part. -/
theorem Represents.mantissa_le (h : Represents em q) : (em.mantissa : ℚ) ≤ q := by
  have hle := Int.floor_le (2 * q)
  rw [h.floor] at hle
  push_cast at hle
  have hbit : (0 : ℚ) ≤ em.roundBit.toNat := Nat.cast_nonneg _
  linarith

theorem Represents.lt_mantissa (h : Represents em q) : q < em.mantissa + 1 := by
  have hlt := Int.lt_floor_add_one (2 * q)
  rw [h.floor] at hlt
  push_cast at hlt
  have hbit : (em.roundBit.toNat : ℚ) ≤ 1 := by exact_mod_cast Bool.toNat_le _
  linarith

theorem Represents.roundedMantissa (h : Represents em q) :
    (em.roundedMantissa : ℤ) = nearestEven q := by
  obtain ⟨m, round, sticky⟩ := em
  have hfloor := h.floor
  have hsticky := h.sticky
  unfold nearestEven
  rw [hfloor] at hsticky ⊢
  cases round with
  | false =>
    rw [if_pos (by simp)]
    cases sticky <;>
      simp [ExtendedMantissa.roundedMantissa, ExtendedMantissa.accuracy,
        Accuracy.roundToNearestEven]
  | true =>
    rw [if_neg (by simp)]
    cases sticky with
    | false =>
      rw [if_pos (hsticky.1 rfl)]
      simp only [ExtendedMantissa.roundedMantissa, ExtendedMantissa.accuracy,
        Accuracy.roundToNearestEven, Bool.toNat_true]
      omega
    | true =>
      rw [if_neg (mt hsticky.2 (by simp))]
      simp only [ExtendedMantissa.roundedMantissa, ExtendedMantissa.accuracy,
        Accuracy.roundToNearestEven, Bool.toNat_true]
      omega

/-- **One bit dropped.** The round bit goes among the lower ones, and the last bit of the
mantissa takes its place. -/
theorem Represents.shiftRightOne (h : Represents em q) :
    Represents em.shiftRightOne (q / 2) := by
  have htwice : 2 * (q / 2) = q := by ring
  have hfloor : ⌊q⌋ = em.mantissa := by
    rw [Int.floor_eq_iff]
    exact ⟨by exact_mod_cast h.mantissa_le, by exact_mod_cast h.lt_mantissa⟩
  constructor
  · rw [htwice, hfloor]
    have hbit : (em.mantissa % 2 != 0).toNat = em.mantissa % 2 := by
      obtain hzero | hone := Nat.mod_two_eq_zero_or_one em.mantissa
      · rw [hzero]
        rfl
      · rw [hone]
        rfl
    show (em.mantissa : ℤ) = 2 * ((em.mantissa / 2 : ℕ) : ℤ) + ((em.mantissa % 2 != 0).toNat : ℕ)
    rw [hbit]
    omega
  · rw [htwice, hfloor]
    show (em.roundBit || em.stickyBit) = false ↔ _
    rw [Bool.or_eq_false_iff, h.sticky]
    have hle := Int.floor_le (2 * q)
    rw [h.floor] at hle ⊢
    cases hround : em.roundBit with
    | false =>
      simp only [Bool.toNat_false]
      push_cast
      constructor
      · rintro ⟨-, hq⟩
        linarith
      · intro hq
        exact ⟨trivial, by linarith⟩
    | true =>
      -- with a one in the round bit, the number is half a unit off at least
      rw [hround] at hle
      simp only [Bool.toNat_true] at hle
      push_cast at hle
      constructor
      · rintro ⟨hfalse, -⟩
        cases hfalse
      · intro hq
        push_cast at hq
        linarith

/-- **Any number of bits dropped.** -/
theorem Represents.shiftRight (h : Represents em q) (n : ℕ) :
    Represents (em >>> n) (q / 2 ^ n) := by
  show Represents (n.repeat ExtendedMantissa.shiftRightOne em) (q / 2 ^ n)
  induction n with
  | zero => simpa [Nat.repeat] using h
  | succ n ih =>
    rw [Nat.repeat, pow_succ, ← div_div]
    exact ih.shiftRightOne

/-! ## 2. The form of a double -/

/-- A mantissa and an exponent in the form in which a double has them: the mantissa is as
long as it can be, unless the exponent is the least one. -/
structure Canonical (m : ℕ) (e : ℤ) : Prop where
  least_le : -1074 ≤ e
  lt_two_pow : m < 2 ^ 53
  two_pow_le : -1074 < e → 2 ^ 52 ≤ m

instance (m : ℕ) (e : ℤ) : Decidable (Canonical m e) :=
  decidable_of_iff (-1074 ≤ e ∧ m < 2 ^ 53 ∧ (-1074 < e → 2 ^ 52 ≤ m))
    ⟨fun ⟨hleast, hlt, hle⟩ => ⟨hleast, hlt, hle⟩,
      fun h => ⟨h.least_le, h.lt_two_pow, h.two_pow_le⟩⟩

/-- That an unpacked float is in that form, and which sign and magnitude it has. -/
inductive Denotes : UnpackedFloat → Sign → ℚ → Prop
  | zero (s : Sign) : Denotes (.zero s) s 0
  | finite (s : Sign) {m : ℕ} {e : ℤ} (hm : 0 < m) (h : Canonical m e) :
      Denotes (.finite s m e hm) s (m * 2 ^ e)

theorem targetExponent_eq (k : ℤ) : Format.binary64.targetExponent k = max (k - 53) (-1074) :=
  rfl

/-- The logarithm of a number between two powers of two. -/
theorem log_eq_of_le_of_lt {k : ℤ} (hle : 2 ^ k ≤ x) (hlt : x < 2 ^ (k + 1)) :
    Int.log 2 x = k := by
  have hpos : 0 < x := (two_zpow_pos k).trans_le hle
  have hle' : k ≤ Int.log 2 x :=
    (Int.zpow_le_iff_le_log (b := 2) (by omega) hpos).1 (by exact_mod_cast hle)
  have hlt' : Int.log 2 x < k + 1 :=
    (Int.lt_zpow_iff_log_lt (b := 2) (by omega) hpos).1 (by exact_mod_cast hlt)
  omega

/-- The logarithm of a number is known from its whole part in units of any size. -/
theorem log_eq_log2_add {m : ℕ} {e : ℤ} (hm : 0 < m) (hle : (m : ℚ) * 2 ^ e ≤ x)
    (hlt : x < (m + 1) * 2 ^ e) : Int.log 2 x = m.log2 + e := by
  have hself : 2 ^ m.log2 ≤ m := Nat.log2_self_le hm.ne'
  have hnext : m + 1 ≤ 2 ^ (m.log2 + 1) := Nat.lt_log2_self
  apply log_eq_of_le_of_lt
  · refine le_trans ?_ hle
    rw [zpow_add₀ (by norm_num), zpow_natCast]
    exact mul_le_mul_of_nonneg_right (by exact_mod_cast hself) (two_zpow_pos e).le
  · refine hlt.trans_le ?_
    rw [show (m.log2 : ℤ) + e + 1 = ((m.log2 + 1 : ℕ) : ℤ) + e by push_cast; ring,
      zpow_add₀ (by norm_num), zpow_natCast]
    exact mul_le_mul_of_nonneg_right (by exact_mod_cast hnext) (two_zpow_pos e).le

/-- The exponent that a mantissa of enough bits is shifted to is the one of the unit of the
number that it represents. -/
theorem targetExponent_eq_unitExponent {m : ℕ} {e : ℤ} (hx : 0 < x) (hle : (m : ℚ) * 2 ^ e ≤ x)
    (hlt : x < (m + 1) * 2 ^ e) (henough : e ≤ unitExponent x ∨ 0 < m) :
    Format.binary64.targetExponent (totalExponent m e) = unitExponent x := by
  rw [targetExponent_eq]
  unfold totalExponent
  obtain rfl | hpos := Nat.eq_zero_or_pos m
  · -- no bit at all: the exponent is the least one, or the number would have some
    have hlog : Int.log 2 x < e := by
      have hcast : x < ((2 : ℕ) : ℚ) ^ e := by simpa using hlt
      exact (Int.lt_zpow_iff_log_lt (by omega) hx).1 hcast
    have hzero : Nat.log2 0 = 0 := by simp
    unfold unitExponent at henough ⊢
    rw [hzero]
    omega
  · unfold unitExponent
    rw [log_eq_log2_add hpos hle hlt]
    omega

/-! ## 3. Rounding a mantissa -/

/-- Where there is nothing to drop, a shift changes nothing. -/
theorem shiftToExponent_of_le {m : ℕ} {e t : ℤ} (h : t ≤ e) :
    shiftToExponent m e .exact t = (⟨m, false, false⟩, e) := by
  have hamount : (t - e).toNat = 0 := by omega
  unfold shiftToExponent
  rw [hamount]
  exact Prod.ext rfl (add_zero e)

/-- **The second shift.** A rounded mantissa is in form already, unless it has become the
power of two that is one bit too long. -/
theorem second_shift {m : ℕ} {e : ℤ} (hleast : -1074 ≤ e) (hm : m ≤ 2 ^ 53)
    (hlong : -1074 < e → 2 ^ 52 ≤ m) :
    ∃ m' e', shiftToTargetExponent Format.binary64 m e .exact = (⟨m', false, false⟩, e') ∧
      Canonical m' e' ∧ (m' : ℚ) * 2 ^ e' = m * 2 ^ e := by
  unfold shiftToTargetExponent
  simp only [targetExponent_eq, totalExponent]
  obtain hlt | rfl := hm.lt_or_eq
  · have hlog : m.log2 < 53 := by
      obtain rfl | hpos := Nat.eq_zero_or_pos m
      · simp
      · exact (Nat.log2_lt hpos.ne').2 hlt
    exact ⟨m, e, shiftToExponent_of_le (by omega), ⟨hleast, hlt, hlong⟩, rfl⟩
  · have hlog : (2 ^ 53 : ℕ).log2 = 53 := Nat.log2_two_pow
    refine ⟨2 ^ 52, e + 1, ?_, ⟨by omega, by norm_num, fun _ => le_rfl⟩, ?_⟩
    · have hamount : (max ((2 ^ 53 : ℕ).log2 + 1 + e - 53) (-1074) - e).toNat = 1 := by
        rw [hlog]
        omega
      unfold shiftToExponent
      rw [hamount]
      rfl
    · rw [zpow_add₀ (by norm_num)]
      push_cast
      ring

/-- **Rounding.** From enough bits of a positive number, what rounding makes has the form of a
double and the magnitude of the number rounded. -/
theorem denotes_roundWithAccuracy {m : ℕ} {e : ℤ} {accuracy : Accuracy} (s : Sign)
    (hx : 0 < x)
    (h : Represents (ExtendedMantissa.ofMantissaAndAccuracy m accuracy) (x / 2 ^ e))
    (henough : e ≤ unitExponent x) :
    Denotes (roundWithAccuracy Format.binary64 s m e accuracy) s (roundedMagnitude x) := by
  have hmantissa : (ExtendedMantissa.ofMantissaAndAccuracy m accuracy).mantissa = m := by
    cases accuracy with
    | exact => rfl
    | inexact o => cases o <;> rfl
  -- the first shift leaves the number in its own units
  have htarget : Format.binary64.targetExponent (totalExponent m e) = unitExponent x := by
    have hle := h.mantissa_le
    have hlt := h.lt_mantissa
    rw [hmantissa] at hle hlt
    exact targetExponent_eq_unitExponent hx ((le_div_iff₀ (two_zpow_pos e)).1 hle)
      ((div_lt_iff₀ (two_zpow_pos e)).1 hlt) (.inl henough)
  obtain ⟨n, hn⟩ := Int.le.dest henough
  have hunits : x / 2 ^ e / 2 ^ n = x / 2 ^ unitExponent x := by
    rw [← hn, zpow_add₀ (by norm_num), zpow_natCast, div_div]
  have hrounded := (h.shiftRight n).roundedMantissa
  rw [hunits] at hrounded
  generalize hM : (ExtendedMantissa.ofMantissaAndAccuracy m accuracy >>> n).roundedMantissa = M
    at hrounded
  have hbound : M ≤ 2 ^ 53 := by
    have hnearest := nearestEven_units_le x
    rw [← hrounded] at hnearest
    exact_mod_cast hnearest
  have hlong : -1074 < unitExponent x → 2 ^ 52 ≤ M := by
    intro hleast
    have hnearest := le_nearestEven_units hx hleast
    rw [← hrounded] at hnearest
    exact_mod_cast hnearest
  obtain ⟨m', e', hsecond, hcanonical, hvalue⟩ :=
    second_shift (least_le_unitExponent x) hbound hlong
  have hmagnitude : roundedMagnitude x = m' * 2 ^ e' := by
    unfold roundedMagnitude
    rw [hvalue, ← hrounded]
    rfl
  have hfirst : shiftToTargetExponent Format.binary64 m e accuracy =
      (ExtendedMantissa.ofMantissaAndAccuracy m accuracy >>> n, unitExponent x) := by
    have hamount : (unitExponent x - e).toNat = n := by omega
    unfold shiftToTargetExponent shiftToExponent
    simp only [htarget, hamount]
    rw [hn]
  unfold roundWithAccuracy
  simp only [hfirst, hM, hsecond]
  by_cases hzero : m' = 0
  · rw [dif_pos hzero, hmagnitude, hzero, Nat.cast_zero, zero_mul]
    exact .zero s
  · rw [dif_neg hzero, hmagnitude]
    exact .finite s _ hcanonical

end FlowTriad.Double
