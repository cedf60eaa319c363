/-
`Proofs/Output/Axes.lean` -- the axes of a chart.

The axes are the bounds of the points with room added at both ends, and room is needed:
points of one time or of one value span no range. How much is added depends on the width
and on the distance from zero, with three formulas in all, and it is computed in doubles,
where an addition can be lost or overflow.

The two properties that count have different reasons. That no point is left outside needs
only that the room is not negative, since rounding is monotone (`Outward`). That the range
has a width comes from its bounds where they differ; where they do not, the room must be
large enough not to be rounded away. That is why it is a part of the distance from zero.

Where points are too far apart, an axis is infinite. It holds all points even so, but
cannot be drawn.
-/
import FlowTriad.Proofs.Double.Outward
import FlowTriad.Proofs.Variable.Bounds
import FlowTriad.Output.Chart

set_option autoImplicit false

namespace FlowTriad

open Double

variable {lo hi : Float} {p q : ℚ}

/-! ## 1. The numbers in the formulas -/

theorem hasValue_epsilon : HasValue Chart.epsilon (2 ^ (-52 : ℤ)) :=
  hasValue_of_positive (m := 2 ^ 52) (e := -104) rfl (by decide) (by decide) (by norm_num)

theorem hasValue_unit : HasValue 1.0 1 :=
  hasValue_of_positive (m := 2 ^ 52) (e := -52) rfl (by decide) (by decide) (by norm_num)

theorem exists_twentieth : ∃ c, HasValue 0.05 c ∧ 0 < c :=
  ⟨7205759403792794 * 2 ^ (-57 : ℤ),
    hasValue_of_positive (m := 7205759403792794) (e := -57) rfl (by decide) (by decide) rfl,
    by norm_num⟩

/-- A tenth is no double; the one that stands for it is near enough. -/
theorem exists_tenth : ∃ c, HasValue 0.1 c ∧ 1 / 12 ≤ c ∧ c ≤ 1 / 8 :=
  ⟨7205759403792794 * 2 ^ (-56 : ℤ),
    hasValue_of_positive (m := 7205759403792794) (e := -56) rfl (by decide) (by decide) rfl,
    by norm_num⟩

/-! ## 2. Padded ranges -/

/-- That a range has a width and reaches from one number to another. Its ends may be
infinite. -/
def Range.Encloses (r : Range) (p q : ℚ) : Prop :=
  ∃ y z, HasRank r.1 y ∧ HasRank r.2 z ∧ y ≤ p ∧ q ≤ z ∧ y < z

/-- Room that is not negative leaves nothing outside, and the width of the bounds stays. -/
theorem encloses_of_lt {pad : Float} {w : ℚ} (hlo : HasValue lo p) (hhi : HasValue hi q)
    (hpad : HasRank pad w) (hw : 0 ≤ w) (h : p < q) :
    Range.Encloses (lo - pad, hi + pad) p q := by
  obtain ⟨y, hy, hyp⟩ := hlo.exists_sub_le hpad hw
  obtain ⟨z, hz, hqz⟩ := hhi.exists_le_add hpad hw
  exact ⟨y, z, hy, hz, hyp, hqz, hyp.trans_lt (h.trans_le hqz)⟩

/-- Without a width, room that is not rounded away makes one. -/
theorem encloses_of_rounded_lt {pad : Float} {w : ℚ} (hlo : HasValue lo p)
    (hhi : HasValue hi q) (hpad : HasValue pad w) (hw : 0 ≤ w) (h : p ≤ q)
    (hmoved : rounded (p - w) < p) : Range.Encloses (lo - pad, hi + pad) p q := by
  have hlt := limited_lt hmoved hlo.abs_lt_limit
  obtain ⟨z, hz, hqz⟩ := hhi.exists_le_add hpad.hasRank hw
  exact ⟨_, z, hlo.hasRank_sub hpad, hz, hlt.le, hqz, hlt.trans_le (h.trans hqz)⟩

/-- **Near zero** the room is 1, and small numbers do not round it away. -/
theorem rounded_sub_one_lt (h : |p| < 2 ^ (-52 : ℤ)) : rounded (p - 1) < p := by
  have hhalf : (2 : ℚ) ^ (-52 : ℤ) ≤ 2 ^ (-1 : ℤ) := zpow_le_zpow_right₀ (by norm_num) (by norm_num)
  have hone : (2 : ℚ) ^ (-1 : ℤ) + 2 ^ (-1 : ℤ) = 1 := by norm_num
  rcases abs_lt.1 (h.trans_le hhalf) with ⟨hlower, hupper⟩
  calc rounded (p - 1) ≤ rounded (-2 ^ (-1 : ℤ)) := by
        apply rounded_mono
        linarith only [hupper, hone]
    _ = -2 ^ (-1 : ℤ) := by rw [rounded_neg, rounded_two_zpow (by norm_num)]
    _ < p := hlower

/-- **Far from zero** the room is about a tenth of the distance. Rounding leaves it between a
sixteenth and a quarter. -/
theorem rounded_tenth_bounds {c : ℚ} (hp : 2 ^ (-52 : ℤ) ≤ |p|) (hlower : 1 / 12 ≤ c)
    (hupper : c ≤ 1 / 8) : |p| / 16 ≤ rounded (|p| * c) ∧ rounded (|p| * c) ≤ |p| / 4 := by
  have hpos : 0 < |p| := (two_zpow_pos _).trans_le hp
  have hproduct : 0 ≤ |p| * c := mul_nonneg hpos.le (by linarith only [hlower])
  have hatleast : |p| / 12 ≤ |p| * c := by
    calc |p| / 12 = |p| * (1 / 12) := by ring
      _ ≤ |p| * c := mul_le_mul_of_nonneg_left hlower hpos.le
  have hatmost : |p| * c ≤ |p| / 8 := by
    calc |p| * c ≤ |p| * (1 / 8) := mul_le_mul_of_nonneg_left hupper hpos.le
      _ = |p| / 8 := by ring
  have hnormal : 2 ^ (-1022 : ℤ) ≤ abs (|p| * c) := by
    rw [abs_of_nonneg hproduct]
    calc (2 : ℚ) ^ (-1022 : ℤ) ≤ 2 ^ (-56 : ℤ) := zpow_le_zpow_right₀ (by norm_num) (by norm_num)
      _ = 2 ^ (-52 : ℤ) / 16 := by norm_num
      _ ≤ |p| / 16 := by gcongr
      _ ≤ |p| * c := by linarith only [hatleast, hpos]
  have herror := abs_rounded_sub_le_part hnormal
  rw [abs_of_nonneg hproduct, abs_le] at herror
  have hpart : |p| * c / 2 ^ 53 ≤ |p| / 64 := by
    calc |p| * c / 2 ^ 53 ≤ |p| * c / 8 := by
          apply div_le_div_of_nonneg_left hproduct (by norm_num) (by norm_num)
      _ ≤ |p| / 64 := by linarith only [hatmost]
  constructor
  · linarith only [herror.1, hpart, hatleast, hpos]
  · linarith only [herror.2, hpart, hatmost, hpos]

theorem exists_tenth_of (hlo : HasValue lo p) (hp : 2 ^ (-52 : ℤ) ≤ |p|) :
    ∃ w, HasValue (lo.abs * 0.1) w ∧ |p| / 16 ≤ w ∧ w ≤ |p| / 4 := by
  obtain ⟨c, hc, hlower, hupper⟩ := exists_tenth
  have hpos : 0 < |p| := (two_zpow_pos _).trans_le hp
  rcases rounded_tenth_bounds hp hlower hupper with ⟨hatleast, hatmost⟩
  have hfits : |rounded (|p| * c)| < 2 ^ (1024 : ℤ) := by
    rw [abs_of_nonneg (by linarith only [hatleast, hpos])]
    refine lt_of_le_of_lt ?_ hlo.abs_lt_limit
    linarith only [hatmost, hpos]
  exact ⟨_, hlo.abs.mul hc hfits, hatleast, hatmost⟩

/-- **A padded range** encloses the range that it was made from. -/
theorem encloses_paddedRange (hlo : HasValue lo p) (hhi : HasValue hi q) (h : p ≤ q) :
    (Chart.paddedRange lo hi).Encloses p q := by
  have hspan := hhi.hasRank_sub hlo
  have hwidth : 0 ≤ limited (rounded (q - p)) := limited_nonneg (rounded_nonneg (sub_nonneg.2 h))
  have hsmall : (hi - lo).abs < Chart.epsilon ↔ limited (rounded (q - p)) < 2 ^ (-52 : ℤ) := by
    rw [hspan.abs.lt_iff hasValue_epsilon.hasRank, abs_of_nonneg hwidth]
  have hnear : lo.abs < Chart.epsilon ↔ |p| < 2 ^ (-52 : ℤ) := hlo.abs.lt_iff hasValue_epsilon
  unfold Chart.paddedRange
  simp only [hsmall, hnear]
  split_ifs with hnarrow hzero
  · -- hardly a width, near zero
    exact encloses_of_rounded_lt hlo hhi hasValue_unit zero_le_one h (rounded_sub_one_lt hzero)
  · -- hardly a width, and too far from zero for 1 to count
    have hfar := not_lt.1 hzero
    obtain ⟨w, hw, hlower, hupper⟩ := exists_tenth_of hlo hfar
    have hnonneg : 0 ≤ w := (div_nonneg (abs_nonneg p) (by norm_num)).trans hlower
    exact encloses_of_rounded_lt hlo hhi hw hnonneg h (rounded_sub_lt hfar hlower hupper)
  · obtain ⟨c, hc, hpos⟩ := exists_twentieth
    obtain ⟨w, hw, hnonneg⟩ := hspan.exists_mul hwidth hc hpos
    -- here there is a width already, since that of equal bounds would be zero
    have hlt : p < q := by
      rcases h.eq_or_lt with rfl | hlt
      · rw [sub_self, hasValue_zero.hasRank.limited_rounded_eq] at hnarrow
        exact absurd (two_zpow_pos _) hnarrow
      · exact hlt
    exact encloses_of_lt hlo hhi hw hnonneg hlt

/-! ## 3. Charts -/

/-- **An axis for some numbers**: it has a width, and all of them lie on it. -/
structure Range.Covers (r : Range) (xs : List Float) : Prop where
  lt : r.1 < r.2
  within : ∀ x ∈ xs, r.1 ≤ x ∧ x ≤ r.2

/-- Made from the closest range around some numbers, a padded range is an axis for them. -/
theorem covers_paddedRange {r : Range} {xs : List Float} (h : r.Spans xs)
    (hxs : ∀ x ∈ xs, ∃ p, HasValue x p) : (Chart.paddedRange r.1 r.2).Covers xs := by
  obtain ⟨p, hlo⟩ := hxs r.1 h.lower_mem
  obtain ⟨q, hhi⟩ := hxs r.2 h.upper_mem
  have hle : p ≤ q := (hlo.le_iff hhi).1 (h.within r.1 h.lower_mem).2
  obtain ⟨y, z, hy, hz, hyp, hqz, hlt⟩ := encloses_paddedRange hlo hhi hle
  refine ⟨(hy.lt_iff hz).2 hlt, ?_⟩
  intro x hx
  obtain ⟨w, hw⟩ := hxs x hx
  rcases h.within x hx with ⟨hlower, hupper⟩
  rw [hlo.le_iff hw] at hlower
  rw [hw.le_iff hhi] at hupper
  exact ⟨(hy.le_iff hw.hasRank).2 (hyp.trans hlower), (hw.hasRank.le_iff hz).2 (hupper.trans hqz)⟩

/-- **Axes cover the points.** Of a variable with numbers for points, in any number of series,
some of which may be empty: there are no bounds only if there is no point; bounds are the
closest ranges around the times and around the values of all points; and the axes of its
chart, made from the bounds or, without points, from the range from 0 to 1, have a width
and cover all times and all values. -/
theorem axes_cover_points (algorithm : Option String) (v : ResolvedVariable)
    (hfinite : ∀ s ∈ v.series, ∀ p ∈ s.points, Decimal.isFinite p.1 ∧ Decimal.isFinite p.2) :
    (v.bounds? = none ↔ ∀ s ∈ v.series, s.points = []) ∧
      (∀ ts xs, v.bounds? = some (ts, xs) →
        ts.Spans (v.points.map Prod.fst) ∧ xs.Spans (v.points.map Prod.snd)) ∧
      (Chart.of algorithm v).times.Covers (v.points.map Prod.fst) ∧
      (Chart.of algorithm v).values.Covers (v.points.map Prod.snd) := by
  have htimes : ∀ t ∈ v.points.map Prod.fst, ∃ p, HasValue t p := by
    intro t ht
    obtain ⟨p, hp, rfl⟩ := List.mem_map.1 ht
    obtain ⟨s, hs, hps⟩ := List.mem_flatMap.1 hp
    exact isFinite_iff.1 (hfinite s hs p hps).1
  have hvalues : ∀ x ∈ v.points.map Prod.snd, ∃ p, HasValue x p := by
    intro x hx
    obtain ⟨p, hp, rfl⟩ := List.mem_map.1 hx
    obtain ⟨s, hs, hps⟩ := List.mem_flatMap.1 hp
    exact isFinite_iff.1 (hfinite s hs p hps).2
  refine ⟨ResolvedVariable.bounds?_eq_none.trans ResolvedVariable.points_eq_nil,
    fun ts xs h => ResolvedVariable.spans_of_bounds? htimes hvalues h, ?_⟩
  unfold Chart.of
  cases hbounds : v.bounds? with
  | none =>
    rw [ResolvedVariable.bounds?_eq_none.1 hbounds]
    -- the range from 0 to 1 has a width of its own
    obtain ⟨y, z, hy, hz, -, -, hlt⟩ := encloses_paddedRange hasValue_zero hasValue_unit zero_le_one
    have hwidth := (hy.lt_iff hz).2 hlt
    exact ⟨⟨hwidth, List.forall_mem_nil _⟩, ⟨hwidth, List.forall_mem_nil _⟩⟩
  | some bounds =>
    rcases ResolvedVariable.spans_of_bounds? htimes hvalues hbounds with ⟨hts, hxs⟩
    exact ⟨covers_paddedRange hts htimes, covers_paddedRange hxs hvalues⟩

/-- A variable that one source has no points of, and that has one value throughout. -/
def steadyVariable : ResolvedVariable where
  description := { name := "pMtu", title := "Path MTU", axis := "PMTU [bytes]" }
  series := [⟨.kernelSocket, [(0.5, 1500.0), (2.5, 1500.0)]⟩, ⟨.inKernelProbe, []⟩,
    ⟨.trafficGenerator, [(1.0, 1500.0)]⟩]

/-- Its bounds have no height, and its axis has. -/
theorem axes_cover_points_steady :
    (∀ s ∈ steadyVariable.series, ∀ p ∈ s.points,
        Decimal.isFinite p.1 ∧ Decimal.isFinite p.2) ∧
      steadyVariable.bounds? = some ((0.5, 2.5), (1500.0, 1500.0)) ∧
      Range.Spans (1500.0, 1500.0) (steadyVariable.points.map Prod.snd) ∧
      (Chart.of none steadyVariable).values = (1350.0, 1650.0) ∧
      (Chart.of none steadyVariable).values.Covers (steadyVariable.points.map Prod.snd) := by
  have hfinite : ∀ s ∈ steadyVariable.series, ∀ p ∈ s.points,
      Decimal.isFinite p.1 ∧ Decimal.isFinite p.2 := by decide
  have hbounds : steadyVariable.bounds? = some ((0.5, 2.5), (1500.0, 1500.0)) := by rfl
  rcases axes_cover_points none steadyVariable hfinite with ⟨-, hspans, -, hvalues⟩
  exact ⟨hfinite, hbounds, (hspans _ _ hbounds).2, by rfl, hvalues⟩

end FlowTriad
