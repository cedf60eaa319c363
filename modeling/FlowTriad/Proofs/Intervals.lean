/-
`Proofs/Intervals.lean` -- when the intervals of a report end.

An interval ends as many nanoseconds after the start as its running total makes, a double
that is scaled, rounded and held within 64 bits. None of these steps reverses an order,
and adding a duration that is not negative does not lower a total, also where totals have
become infinite. So the ends come one after the other, the last total decides whether all
of them lie in the calendar (`isSome_intervalEnds?_iff`), and as no total makes more than
64 bits of nanoseconds, a start that is three hundred years away from the end of the
calendar is early enough for all durations.
-/
import FlowTriad.Proofs.Double.Addition
import FlowTriad.Proofs.Double.Nearest
import FlowTriad.Proofs.Instant.Moving
import FlowTriad.Proofs.Instant.Seconds
import FlowTriad.Proofs.Items
import FlowTriad.Proofs.Timeline

set_option autoImplicit false

namespace FlowTriad.TimedSeries

open Double

variable {a b : Float} {p q : ℚ} {durations : List Float} {start : Instant}

/-! ## 1. Totals -/

/-- The sum of numbers, added from left to right. -/
def totalOf (xs : List Float) : Float :=
  xs.foldl (· + ·) 0.0

theorem goodDuration_iff {x : Float} :
    goodDuration x ↔ Decimal.isFinite x ∧ ¬ x < 0.0 := by
  unfold goodDuration
  rw [Bool.and_eq_true, Bool.not_eq_true', decide_eq_false_iff_not]

theorem hasValue_of_goodDuration {x : Float} (h : goodDuration x) :
    ∃ q, HasValue x q ∧ 0 ≤ q := by
  rw [goodDuration_iff] at h
  obtain ⟨q, hq⟩ := exists_hasValue h.1
  rw [hq.lt_iff hasValue_zero, not_lt] at h
  exact ⟨q, hq, h.2⟩

/-- **Totals do not fall.** Adding durations to a number that is not negative leads to one
that is not smaller, or to infinity. -/
theorem exists_hasRank_foldl (ha : HasRank a p) (hp : 0 ≤ p)
    (hgood : ∀ x ∈ durations, goodDuration x) :
    ∃ q, p ≤ q ∧ HasRank (durations.foldl (· + ·) a) q := by
  induction durations generalizing a p with
  | nil => exact ⟨p, le_rfl, ha⟩
  | cons x xs ih =>
    rw [List.forall_mem_cons] at hgood
    obtain ⟨r, hr, hnonneg⟩ := hasValue_of_goodDuration hgood.1
    have hsum := ha.add hp hr hnonneg
    have hle : p ≤ limited (rounded (p + r)) := by
      calc p = limited (rounded p) := ha.limited_rounded_eq.symm
        _ ≤ limited (rounded (p + r)) := limited_mono (rounded_mono (le_add_of_nonneg_right hnonneg))
    -- the rest starts from a place that is no value any more if the sum became infinite
    obtain ⟨q, hq, hrank⟩ := ih hsum (hp.trans hle) hgood.2
    exact ⟨q, hle.trans hq, hrank⟩

/-! ## 2. Nanoseconds -/

/-- The nanoseconds of a number of seconds that is not negative. -/
def nanosecondsOf (p : ℚ) : ℤ :=
  nearestInt64 (limited (rounded (p * 1000000000)))

theorem nanoseconds_eq (ha : HasRank a p) (hp : 0 ≤ p) : nanoseconds a = nanosecondsOf p := by
  have hproduct : 0 ≤ limited (rounded (p * 1000000000)) :=
    limited_nonneg (rounded_nonneg (mul_nonneg hp (by norm_num)))
  exact toInt64_eq (ha.mul hp hasValue_billion (by norm_num)) hproduct

theorem nanosecondsOf_mono (h : p ≤ q) : nanosecondsOf p ≤ nanosecondsOf q :=
  nearestInt64_mono (limited_mono (rounded_mono (mul_le_mul_of_nonneg_right h (by norm_num))))

theorem nanosecondsOf_nonneg (h : 0 ≤ p) : 0 ≤ nanosecondsOf p :=
  nearestInt64_nonneg (limited_nonneg (rounded_nonneg (mul_nonneg h (by norm_num))))

/-- A list of durations makes at least as many nanoseconds as each of its beginnings. -/
theorem nanoseconds_total_mono (hgood : ∀ x ∈ durations, goodDuration x) (i : ℕ) :
    0 ≤ nanoseconds (totalOf (durations.take i)) ∧
      nanoseconds (totalOf (durations.take i)) ≤ nanoseconds (totalOf durations) := by
  have hfirst : ∀ x ∈ durations.take i, goodDuration x :=
    fun x hx => hgood x (List.mem_of_mem_take hx)
  have hrest : ∀ x ∈ durations.drop i, goodDuration x :=
    fun x hx => hgood x (List.mem_of_mem_drop hx)
  obtain ⟨p, hp, hprank⟩ := exists_hasRank_foldl hasValue_zero.hasRank le_rfl hfirst
  -- the rest of the durations is added to the total of the first ones
  obtain ⟨q, hq, hqrank⟩ := exists_hasRank_foldl hprank hp hrest
  rw [← List.foldl_append, List.take_append_drop] at hqrank
  unfold totalOf
  rw [nanoseconds_eq hprank hp, nanoseconds_eq hqrank (hp.trans hq)]
  exact ⟨nanosecondsOf_nonneg hp, nanosecondsOf_mono hq⟩

theorem nanoseconds_le_greatest (hgood : ∀ x ∈ durations, goodDuration x) :
    nanoseconds (totalOf durations) ≤ Whole.greatest := by
  obtain ⟨p, hp, hrank⟩ := exists_hasRank_foldl hasValue_zero.hasRank le_rfl hgood
  unfold totalOf
  rw [nanoseconds_eq hrank hp]
  exact min_le_right _ _

/-! ## 3. Ends -/

/-- All intervals have an end when each total leads to one. -/
theorem isSome_intervalEnds?_iff_totals :
    (intervalEnds? start durations).isSome ↔
      ∀ i < durations.length,
        (start.add? (nanoseconds (totalOf (durations.take (i + 1))))).isSome := by
  simp only [Option.isSome_iff_exists, intervalEnds?_eq_some, exists_forall₂_iff]
  constructor
  · intro h i hi
    exact h _ (List.mem_of_getElem? (getElem?_totalsFrom hi))
  · intro h total htotal
    obtain ⟨i, hi, hget⟩ := List.getElem_of_mem htotal
    rw [length_totalsFrom] at hi
    have hsum : (totalsFrom 0.0 durations)[i]? = some (totalOf (durations.take (i + 1))) :=
      getElem?_totalsFrom hi
    rw [List.getElem?_eq_getElem (by rwa [length_totalsFrom]), hget, Option.some.injEq] at hsum
    rw [hsum]
    exact h i hi

/-- **The last total decides.** Intervals that are not negative all end in the calendar when
the sum of their durations does not lead out of it. -/
theorem isSome_intervalEnds?_iff (hgood : ∀ x ∈ durations, goodDuration x) :
    (intervalEnds? start durations).isSome ↔
      start.secondAfter (nanoseconds (totalOf durations)) ≤ Instant.lastSecond := by
  have hend (i : ℕ) := Instant.isSome_add?_iff (t := start) (nanoseconds_total_mono hgood i).1
  simp only [isSome_intervalEnds?_iff_totals, hend]
  constructor
  · intro h
    cases hlength : durations.length with
    | zero =>
      -- no total is asked for, but an empty one leads nowhere
      have hnone : nanoseconds (totalOf durations) = 0 := by
        rw [List.length_eq_zero_iff.1 hlength]
        decide +kernel
      rw [hnone]
      exact start.secondAfter_zero_le
    | succ n =>
      have hlast := h n (by omega)
      rwa [← hlength, List.take_length] at hlast
  · intro h i hi
    exact (start.secondAfter_mono (nanoseconds_total_mono hgood (i + 1)).2).trans h

/-- The seconds that 64 bits of nanoseconds reach, a begun one included. -/
def reach : ℤ := 9223372037

/-- **Early starts** lead to an end of every interval, however long they are. -/
theorem isSome_intervalEnds?_of_early (hgood : ∀ x ∈ durations, goodDuration x)
    (hearly : start.seconds + reach ≤ Instant.lastSecond) :
    (intervalEnds? start durations).isSome := by
  rw [isSome_intervalEnds?_iff hgood]
  have hreach := nanoseconds_le_greatest hgood
  refine le_trans ?_ hearly
  unfold Instant.secondAfter
  simp only [reach, Whole.greatest, nanosPerSecond] at *
  omega

end FlowTriad.TimedSeries
