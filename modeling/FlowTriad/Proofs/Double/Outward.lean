/-
`Proofs/Double/Outward.lean` -- going outwards from a double.

What is added to a double may be infinite, because it was computed from numbers that are far
apart, and then the formula of a rounded sum has nothing to say. What remains is the
direction: with a term that is not negative, a sum is no less than the double, and a
difference no greater (`HasValue.exists_le_add`, `HasValue.exists_sub_le`). Both follow from
rounding being monotone, and from every double being its own rounding.

That the step is one at all needs more, since small steps are rounded away. It is enough
that the term is a sixteenth of the double's size (`rounded_sub_lt`).
-/
import FlowTriad.Proofs.Double.Addition

set_option autoImplicit false

namespace FlowTriad.Double

open Float.Model (Format UnpackedFloat)
open Float.Model.UnpackedFloat

variable {s t : Sign} {u v : UnpackedFloat} {x y : ℚ} {a b : Float} {p q w : ℚ}

/-! ## 1. Differences -/

/-- A difference is the sum with the opposite. -/
theorem sub_eq_add_neg_unpacked (hu : Denotes u s x) (hv : Denotes v t y) :
    UnpackedFloat.sub Format.binary64 u v = UnpackedFloat.add Format.binary64 u v.neg := by
  cases hu with
  | zero => cases hv <;> rfl
  | finite _ hm h =>
    cases hv with
    | zero => rfl
    | finite _ hn h' =>
      cases t <;> simp [UnpackedFloat.sub, UnpackedFloat.add, UnpackedFloat.neg, Sign.apply,
        sub_eq_add_neg]

theorem exists_denotes_sub (hu : Denotes u s x) (hv : Denotes v t y) :
    ∃ r z, Denotes (UnpackedFloat.sub Format.binary64 u v) r z ∧
      rounded (signed s x - signed t y) = signed r z := by
  rw [sub_eq_add_neg_unpacked hu hv, sub_eq_add_neg, ← signed_neg]
  exact exists_denotes_add hu hv.neg

/-- **A difference** is rounded once. This is where it stands, also if it is beyond the
limits. -/
theorem HasValue.hasRank_sub (ha : HasValue a p) (hb : HasValue b q) :
    HasRank (a - b) (limited (rounded (p - q))) := by
  obtain ⟨s, x, ha, -, rfl⟩ := ha
  obtain ⟨t, y, hb, -, rfl⟩ := hb
  obtain ⟨r, z, hdifference, hz⟩ := exists_denotes_sub ha hb
  rw [hz]
  exact hasRank_pack hdifference

/-! ## 2. Sizes -/

theorem Denotes.abs (h : Denotes u s x) : Denotes u.abs .positive x := by
  cases h with
  | zero => exact .zero _
  | finite _ hm h => exact .finite _ hm h

theorem HasValue.abs (h : HasValue a q) : HasValue a.abs |q| := by
  obtain ⟨s, x, hdenotes, hlt, rfl⟩ := h
  rw [abs_signed s hdenotes.nonneg]
  exact hasValue_pack hdenotes.abs hlt

theorem HasRank.abs (h : HasRank a q) : HasRank a.abs |q| := by
  rcases h.cases with h | ⟨s, hinfinite, rfl⟩
  · exact h.abs.hasRank
  · rw [abs_signed s (two_zpow_pos _).le]
    show HasRank (.ofModel (.pack a.toModel.unpack.abs)) _
    rw [hinfinite]
    exact hasRank_infinity .positive

/-! ## 3. Steps -/

/-- A product of positive numbers is not negative, also if the first of them is infinite. -/
theorem HasRank.exists_mul (ha : HasRank a p) (hp : 0 ≤ p) (hb : HasValue b q) (hq : 0 < q) :
    ∃ z, HasRank (a * b) z ∧ 0 ≤ z := by
  rcases ha.cases_of_nonneg hp with hvalue | ⟨hinfinite, rfl⟩
  · exact ⟨_, hvalue.hasRank_mul hb, limited_nonneg (rounded_nonneg (mul_nonneg hp hq.le))⟩
  · exact ⟨_, hasRank_mul_of_infinite hinfinite hb hq, (two_zpow_pos _).le⟩

/-- **Upwards**: a sum with a term that is not negative, and may be infinite, is no less. -/
theorem HasValue.exists_le_add (ha : HasValue a p) (hb : HasRank b w) (hw : 0 ≤ w) :
    ∃ z, HasRank (a + b) z ∧ p ≤ z := by
  rcases hb.cases_of_nonneg hw with hb | ⟨hinfinite, rfl⟩
  · refine ⟨_, ha.hasRank_add hb, ?_⟩
    calc p = limited (rounded p) := ha.hasRank.limited_rounded_eq.symm
      _ ≤ limited (rounded (p + w)) := limited_mono (rounded_mono (by linarith))
  · refine ⟨2 ^ (1024 : ℤ), ?_, (le_abs_self p).trans ha.abs_lt_limit.le⟩
    obtain ⟨s, x, hdenotes, -, rfl⟩ := ha
    show HasRank (.ofModel (.pack (UnpackedFloat.add Format.binary64 a.toModel.unpack
      b.toModel.unpack))) _
    rw [hinfinite]
    have hsum : UnpackedFloat.add Format.binary64 a.toModel.unpack (.infinity .positive) =
        .infinity .positive := by
      generalize a.toModel.unpack = u at hdenotes
      cases hdenotes <;> rfl
    rw [hsum]
    exact hasRank_infinity .positive

/-- **Downwards**: so is a difference no greater. -/
theorem HasValue.exists_sub_le (ha : HasValue a p) (hb : HasRank b w) (hw : 0 ≤ w) :
    ∃ z, HasRank (a - b) z ∧ z ≤ p := by
  rcases hb.cases_of_nonneg hw with hb | ⟨hinfinite, rfl⟩
  · refine ⟨_, ha.hasRank_sub hb, ?_⟩
    calc limited (rounded (p - w)) ≤ limited (rounded p) :=
          limited_mono (rounded_mono (by linarith))
      _ = p := ha.hasRank.limited_rounded_eq
  · refine ⟨-2 ^ (1024 : ℤ), ?_, neg_le.1 ((neg_le_abs p).trans ha.abs_lt_limit.le)⟩
    obtain ⟨s, x, hdenotes, -, rfl⟩ := ha
    show HasRank (.ofModel (.pack (UnpackedFloat.sub Format.binary64 a.toModel.unpack
      b.toModel.unpack))) _
    rw [hinfinite]
    have hdifference : UnpackedFloat.sub Format.binary64 a.toModel.unpack (.infinity .positive) =
        .infinity .negative := by
      generalize a.toModel.unpack = u at hdenotes
      cases hdenotes <;> rfl
    rw [hdifference]
    exact hasRank_infinity .negative

/-- Within the limits, what is less stays less when it is held within them. -/
theorem limited_lt (h : w < p) (hp : |p| < 2 ^ (1024 : ℤ)) : limited w < p := by
  have hlower := (abs_lt.1 hp).1
  exact max_lt hlower ((min_le_left _ _).trans_lt h)

/-- **A sixteenth is not rounded away.** -/
theorem rounded_sub_lt (hp : 2 ^ (-52 : ℤ) ≤ |p|) (hlower : |p| / 16 ≤ w)
    (hupper : w ≤ |p| / 4) : rounded (p - w) < p := by
  have hpos : 0 < |p| := (two_zpow_pos _).trans_le hp
  have hw : |w| = w := abs_of_nonneg (by linarith)
  have hsmall : (2 : ℚ) ^ (-1022 : ℤ) ≤ 2 ^ (-53 : ℤ) :=
    zpow_le_zpow_right₀ (by norm_num) (by norm_num)
  have hhalf : (2 : ℚ) ^ (-53 : ℤ) = 2 ^ (-52 : ℤ) / 2 := by norm_num
  have hnormal : 2 ^ (-1022 : ℤ) ≤ |p - w| := by
    calc (2 : ℚ) ^ (-1022 : ℤ) ≤ 2 ^ (-52 : ℤ) / 2 := hhalf ▸ hsmall
      _ ≤ |p| / 2 := by gcongr
      _ ≤ |p| - |w| := by linarith
      _ ≤ |p - w| := abs_sub_abs_le_abs_sub p w
  have hsize : |p - w| ≤ 2 * |p| := by
    have hsum := abs_sub p w
    linarith
  have herror := (abs_le.1 (abs_rounded_sub_le_part hnormal)).2
  have hpart : |p - w| / 2 ^ 53 ≤ 2 * |p| / 2 ^ 53 := by
    apply div_le_div_of_nonneg_right hsize
    norm_num
  norm_num at herror hpart
  linarith

end FlowTriad.Double
