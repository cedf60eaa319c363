/-
`Proofs/Alignment/Sorted.lean` -- streams in order, on a common time axis.

Streams whose samples are in the order of their instants should stay so when they are
aligned: no time negative, none after a greater one, and the first of all zero. That is
what alignment is for, and it holds of most streams. It is not so for all, because the
epoch is found by the order of instants and times are found by their distances, which
differ at leap seconds; and because a distance beyond 64 bits of nanoseconds is counted
in milliseconds.

`sorted_alignment_iff` says for which streams it is so, and that these are all but the
ones named here.
-/
import FlowTriad.Proofs.Alignment.Specification
import FlowTriad.Proofs.Instant.Seconds

set_option autoImplicit false

namespace FlowTriad

open Double

/-! ## 1. Times set back -/

namespace Instant

variable {e x y : Instant}

/-- That `y` is beyond 64 bits of nanoseconds from `e` and `x` is not, and that both are in
the millisecond of that limit, which is then counted whole for `y`. -/
structure Coarsened (e x y : Instant) : Prop where
  within : e.nanosTo x ≤ Whole.greatest
  beyond : Whole.greatest < e.nanosTo y
  fraction : 9223372036854000000 < e.nanosTo x
  millisecond : e.nanosTo y < 9223372036855000000

/-- That `y`, which is not before `x`, is counted as nearer to `e`. -/
def SetBack (e x y : Instant) : Prop :=
  Overtaken e x y ∧ e.nanosTo y < counted (e.nanosTo x) ∨ Coarsened e x y

theorem least_lt_nanosTo (h : e ≤ x) : Whole.least < e.nanosTo x := by
  have hsecond := neg_second_lt_nanosTo h
  simp only [Whole.least, nanosPerSecond] at *
  omega

/-- **Set back** is what has the smaller count. -/
theorem setBack_iff (he : e ≤ x) (h : x ≤ y) :
    SetBack e x y ↔ counted (e.nanosTo y) < counted (e.nanosTo x) := by
  have hx := least_lt_nanosTo he
  have hy := least_lt_nanosTo (he.trans h)
  have hcoarsened : Coarsened e x y ↔ e.nanosTo x ≤ Whole.greatest ∧
      Whole.greatest < e.nanosTo y ∧ 9223372036854000000 < e.nanosTo x ∧
      e.nanosTo y < 9223372036855000000 :=
    ⟨fun h => ⟨h.within, h.beyond, h.fraction, h.millisecond⟩,
      fun ⟨h₁, h₂, h₃, h₄⟩ => ⟨h₁, h₂, h₃, h₄⟩⟩
  unfold SetBack
  rw [← nanosTo_lt_iff h, hcoarsened]
  generalize e.nanosTo x = a at *
  generalize e.nanosTo y = b at *
  -- each of the two may be beyond the limit, and is then counted in milliseconds
  by_cases ha : a ≤ Whole.greatest
  · rw [counted_of_fits (fits_iff.2 ⟨hx.le, ha⟩)]
    by_cases hb : b ≤ Whole.greatest
    · rw [counted_of_fits (fits_iff.2 ⟨hy.le, hb⟩)]
      omega
    · rw [(counted_of_greatest_lt (not_le.1 hb)).1]
      simp only [Whole.greatest] at *
      omega
  · rw [(counted_of_greatest_lt (not_le.1 ha)).1]
    by_cases hb : b ≤ Whole.greatest
    · rw [counted_of_fits (fits_iff.2 ⟨hy.le, hb⟩)]
      omega
    · rw [(counted_of_greatest_lt (not_le.1 hb)).1]
      simp only [Whole.greatest] at *
      omega

/-- A time is negative only where the instant seems to lie before the epoch. -/
theorem zero_le_secondsTo_iff (h : e ≤ x) : 0.0 ≤ e.secondsTo x ↔ ¬ SeemsBefore x e := by
  rw [hasValue_zero.le_iff (hasValue_secondsTo e x),
    secondsValue_nonneg_iff (least_lt_nanosTo h).le, ← nanosTo_neg_iff h, Int.not_lt]

/-- A later instant has a smaller time only if it is set back, and always then unless the
two are rounded to one double. -/
theorem secondsTo_le_iff (he : e ≤ x) (h : x ≤ y) :
    e.secondsTo x ≤ e.secondsTo y ↔
      (SetBack e x y → e.secondsTo x == e.secondsTo y) := by
  have hx := hasValue_secondsTo e x
  have hy := hasValue_secondsTo e y
  have hleast := (least_lt_nanosTo he).le
  have hleast' := (least_lt_nanosTo (he.trans h)).le
  rw [hx.le_iff hy, hx.beq_iff hy, setBack_iff he h]
  -- seconds follow the count, so a smaller count can at best give equal seconds
  constructor
  · intro hle hcount
    exact hle.antisymm (secondsValue_mono hleast' hleast hcount.le)
  · intro hrounded
    by_cases hcount : counted (e.nanosTo y) < counted (e.nanosTo x)
    · exact (hrounded hcount).le
    · exact secondsValue_mono hleast hleast' (Int.not_lt.1 hcount)

/-- Set back by four microseconds, within 64 bits, is set back as a double too. -/
theorem secondsTo_lt_of_counted (he : e ≤ x) (h : x ≤ y)
    (hfits : counted (e.nanosTo x) ≤ Whole.greatest)
    (hfar : counted (e.nanosTo y) + 4000 ≤ counted (e.nanosTo x)) :
    e.secondsTo y < e.secondsTo x := by
  rw [(hasValue_secondsTo e y).lt_iff (hasValue_secondsTo e x)]
  exact secondsValue_strictMono (least_lt_nanosTo (he.trans h)) (least_lt_nanosTo he) hfits hfar

end Instant

/-! ## 2. Sets in order -/

namespace SeriesSet

/-- No time is negative. -/
def NoneNegative (set : SeriesSet) : Prop :=
  ∀ source, ∀ x ∈ (set.get source).samples, 0.0 ≤ x.time

/-- The first time of all is zero. -/
def BeginsAtZero (set : SeriesSet) : Prop :=
  (∃ source, (set.get source).samples.head?.map (·.time) = some 0.0) ∧
    ∀ source t, (set.get source).samples.head?.map (·.time) = some t → 0.0 ≤ t

end SeriesSet

/-- The samples of a stream are in the order of their instants. -/
def TimedSeries.Sorted (s : TimedSeries) : Prop :=
  s.samples.Pairwise (·.instant ≤ ·.instant)

/-- The samples of a series are in the order of their times. -/
def Series.Sorted (s : Series) : Prop :=
  s.samples.Pairwise (·.time ≤ ·.time)

variable {kernel probe generator s : TimedSeries} {set : SeriesSet} {source : Source}

/-- The streams are what is in the places. -/
theorem mem_streams_iff :
    s ∈ [kernel, probe, generator] ↔ ∃ source, (source, s) ∈ places kernel probe generator := by
  simp [places, Source.all, exists_or]

/-- A stream in order has its first instant before all others. -/
theorem TimedSeries.Sorted.first_le {t : Instant} {y : TimedSample} (h : s.Sorted)
    (hfirst : s.first? = some t) (hy : y ∈ s.samples) : t ≤ y.instant := by
  unfold TimedSeries.first? at hfirst
  unfold TimedSeries.Sorted at h
  cases hs : s.samples with
  | nil => simp [hs] at hfirst
  | cons x xs =>
    rw [hs] at h hfirst hy
    obtain rfl : x.instant = t := by simpa using hfirst
    obtain rfl | hy := List.mem_cons.1 hy
    · exact le_rfl
    · exact (List.pairwise_cons.1 h).1 y hy

/-- Where all streams are in order, nothing is before the epoch. -/
theorem Aligned.epoch_le {y : TimedSample} (h : Aligned kernel probe generator set)
    (hs : (source, s) ∈ places kernel probe generator) (hsorted : s.Sorted)
    (hy : y ∈ s.samples) : set.epoch ≤ y.instant := by
  obtain ⟨t, ht⟩ : ∃ t, s.first? = some t := by
    refine exists_first ?_
    rw [List.isEmpty_eq_false_iff]
    exact List.ne_nil_of_mem hy
  exact (h.epoch_isLeast.2 ⟨s, mem_streams_iff.2 ⟨source, hs⟩, ht⟩).trans
    (hsorted.first_le ht hy)

/-- The first time of a series. -/
theorem Aligned.head_time (h : Aligned kernel probe generator set)
    (hs : (source, s) ∈ places kernel probe generator) :
    (set.get source).samples.head?.map (·.time) = s.first?.map set.epoch.secondsTo := by
  rw [h.get_eq _ hs]
  unfold TimedSeries.first?
  cases s.samples <;> rfl

theorem Aligned.noneNegative_iff (h : Aligned kernel probe generator set)
    (hsorted : ∀ x ∈ places kernel probe generator, x.2.Sorted) :
    set.NoneNegative ↔ ∀ x ∈ places kernel probe generator, ∀ y ∈ x.2.samples,
      ¬ y.instant.SeemsBefore set.epoch := by
  -- times are distances from the epoch, and no instant is before it
  constructor
  · rintro hnone ⟨source, s⟩ hs y hy
    rw [← Instant.zero_le_secondsTo_iff (h.epoch_le hs (hsorted _ hs) hy)]
    refine hnone source ⟨set.epoch.secondsTo y.instant, y.fields⟩ ?_
    rw [h.get_eq _ hs]
    exact List.mem_map.2 ⟨y, hy, rfl⟩
  · intro hnone source x hx
    obtain ⟨s, hs⟩ := exists_mem_places kernel probe generator source
    rw [h.get_eq _ hs] at hx
    obtain ⟨y, hy, rfl⟩ := List.mem_map.1 hx
    exact (Instant.zero_le_secondsTo_iff (h.epoch_le hs (hsorted _ hs) hy)).2 (hnone _ hs y hy)

theorem Aligned.sorted_iff (h : Aligned kernel probe generator set)
    (hs : (source, s) ∈ places kernel probe generator) (hsorted : s.Sorted) :
    (set.get source).Sorted ↔ s.samples.Pairwise fun y z =>
      set.epoch.SetBack y.instant z.instant →
        set.epoch.secondsTo y.instant == set.epoch.secondsTo z.instant := by
  unfold Series.Sorted
  rw [h.get_eq _ hs, List.pairwise_map]
  -- pair by pair, each with its instants in order
  constructor
  · intro htimes
    refine (hsorted.and htimes).imp_of_mem fun hy _ hpair => ?_
    exact (Instant.secondsTo_le_iff (h.epoch_le hs hsorted hy) hpair.1).1 hpair.2
  · intro hback
    refine (hsorted.and hback).imp_of_mem fun hy _ hpair => ?_
    exact (Instant.secondsTo_le_iff (h.epoch_le hs hsorted hy) hpair.1).2 hpair.2

theorem Aligned.beginsAtZero_iff (h : Aligned kernel probe generator set) :
    set.BeginsAtZero ↔ ∀ x ∈ places kernel probe generator, ∀ t, x.2.first? = some t →
      ¬ t.SeemsBefore set.epoch := by
  have hleast {source : Source} {s : TimedSeries} {t : Instant}
      (hs : (source, s) ∈ places kernel probe generator) (ht : s.first? = some t) :
      set.epoch ≤ t := h.epoch_isLeast.2 ⟨s, mem_streams_iff.2 ⟨source, hs⟩, ht⟩
  -- that some series begins at zero is never in doubt: the one that the epoch is from does
  constructor
  · rintro ⟨-, hzero⟩ ⟨source, s⟩ hs t ht
    rw [← Instant.zero_le_secondsTo_iff (hleast hs ht)]
    exact hzero source _ (by rw [h.head_time hs, ht]; rfl)
  · intro hnone
    constructor
    · obtain ⟨s, hs, ht⟩ := h.epoch_isLeast.1
      obtain ⟨source, hs⟩ := mem_streams_iff.1 hs
      exact ⟨source, h.tied_zero _ hs ht⟩
    · intro source time htime
      obtain ⟨s, hs⟩ := exists_mem_places kernel probe generator source
      rw [h.head_time hs] at htime
      obtain ⟨t, ht, rfl⟩ := Option.map_eq_some_iff.1 htime
      exact (Instant.zero_le_secondsTo_iff (hleast hs ht)).2 (hnone _ hs t ht)

/-! ## 3. Which streams stay in order -/

theorem Instant.Overtaken.exists_leap {e x y : Instant} (h : Instant.Overtaken e x y) :
    e.isLeap ∨ x.isLeap ∨ y.isLeap := by
  cases h with
  | intoLeap _ _ hy => exact .inr (.inr hy)
  | outOfLeap _ hx => exact .inr (.inl hx)
  | pastMidnight he => exact .inl he
  | pastMidnightLeap he => exact .inl he

/-- Where the times of a series are in order, no count goes back by four microseconds. -/
theorem Aligned.counted_lt_of_sorted (h : Aligned kernel probe generator set)
    (hs : (source, s) ∈ places kernel probe generator) (hsorted : s.Sorted)
    (htimes : (set.get source).Sorted) :
    s.samples.Pairwise fun y z => counted (set.epoch.nanosTo y.instant) ≤ Whole.greatest →
      counted (set.epoch.nanosTo y.instant) < counted (set.epoch.nanosTo z.instant) + 4000 := by
  unfold Series.Sorted at htimes
  rw [h.get_eq _ hs, List.pairwise_map] at htimes
  refine (hsorted.and htimes).imp_of_mem fun {y z} hy _ hpair hfits => ?_
  -- were it that far back, the double would be smaller
  by_contra hfar
  have he := h.epoch_le hs hsorted hy
  have hback := Instant.secondsTo_lt_of_counted he hpair.1 hfits (not_lt.1 hfar)
  have hy' := hasValue_secondsTo set.epoch y.instant
  have hz' := hasValue_secondsTo set.epoch z.instant
  exact ((hz'.lt_iff hy').1 hback).not_ge ((hy'.le_iff hz').1 hpair.2)

/-- That no instant of a stream is in a leap second or beyond 64 bits from an epoch. -/
def TimedSeries.Plain (epoch : Instant) (s : TimedSeries) : Prop :=
  ∀ y ∈ s.samples, ¬ y.instant.isLeap ∧ epoch.nanosTo y.instant ≤ Whole.greatest

theorem Aligned.inOrder_of_plain (h : Aligned kernel probe generator set)
    (hsorted : ∀ x ∈ places kernel probe generator, x.2.Sorted)
    (hplain : ∀ x ∈ places kernel probe generator, x.2.Plain set.epoch) :
    set.NoneNegative ∧ set.BeginsAtZero ∧ ∀ source, (set.get source).Sorted := by
  -- the epoch is the instant of a sample, and so not in a leap second either
  have hepoch : ¬ set.epoch.isLeap := by
    obtain ⟨s, hs, ht⟩ := h.epoch_isLeast.1
    obtain ⟨source, hs⟩ := mem_streams_iff.1 hs
    obtain ⟨y, hy, hinstant⟩ := Option.map_eq_some_iff.1 ht
    rw [← hinstant]
    exact (hplain _ hs y (List.mem_of_head? hy)).1
  refine ⟨(h.noneNegative_iff hsorted).2 fun _ _ _ _ hseems => hepoch hseems.leap,
    h.beginsAtZero_iff.2 fun _ _ _ _ hseems => hepoch hseems.leap, fun source => ?_⟩
  obtain ⟨s, hs⟩ := exists_mem_places kernel probe generator source
  rw [h.sorted_iff hs (hsorted _ hs)]
  refine (hsorted _ hs).imp_of_mem fun hy hz _ hback => ?_
  obtain ⟨hover, -⟩ | hcoarsened := hback
  · obtain he | hy' | hz' := hover.exists_leap
    · exact absurd he hepoch
    · exact absurd hy' (hplain _ hs _ hy).1
    · exact absurd hz' (hplain _ hs _ hz).1
  · exact absurd hcoarsened.beyond (Int.not_lt.2 (hplain _ hs _ hz).2)

/-- **Which streams stay in order.** Of three streams in the order of their instants:

* no time is negative, unless an instant seems to lie before the epoch;
* the first time of all is zero, unless a first instant does;
* the times of a series are in order, unless one is set back and the double shows it;
* the double shows it, within 64 bits, wherever it is set back by four microseconds.

None of this happens where no instant is in a leap second and all are within 64 bits of
nanoseconds from the epoch. -/
theorem sorted_alignment_iff (kernel probe generator : TimedSeries) (set : SeriesSet)
    (hset : align kernel probe generator = .ok set)
    (hsorted : ∀ x ∈ places kernel probe generator, x.2.Sorted) :
    (set.NoneNegative ↔ ∀ x ∈ places kernel probe generator, ∀ y ∈ x.2.samples,
      ¬ y.instant.SeemsBefore set.epoch) ∧
    (set.BeginsAtZero ↔ ∀ x ∈ places kernel probe generator, ∀ t, x.2.first? = some t →
      ¬ t.SeemsBefore set.epoch) ∧
    (∀ x ∈ places kernel probe generator, (set.get x.1).Sorted ↔
      x.2.samples.Pairwise fun y z => set.epoch.SetBack y.instant z.instant →
        set.epoch.secondsTo y.instant == set.epoch.secondsTo z.instant) ∧
    (∀ x ∈ places kernel probe generator, (set.get x.1).Sorted →
      x.2.samples.Pairwise fun y z =>
        counted (set.epoch.nanosTo y.instant) ≤ Whole.greatest →
          counted (set.epoch.nanosTo y.instant) < counted (set.epoch.nanosTo z.instant) + 4000) ∧
    ((∀ x ∈ places kernel probe generator, x.2.Plain set.epoch) →
      set.NoneNegative ∧ set.BeginsAtZero ∧ ∀ source, (set.get source).Sorted) := by
  have h := aligned_of_align_eq_ok hset
  refine ⟨h.noneNegative_iff hsorted, h.beginsAtZero_iff, ?_, ?_, h.inOrder_of_plain hsorted⟩
  · intro x hx
    exact h.sorted_iff hx (hsorted x hx)
  · intro x hx htimes
    exact h.counted_lt_of_sorted hx (hsorted x hx) htimes

/-- An instant in a leap second that ends a day. -/
def beforeMidnight : Instant :=
  ⟨1730505599, 1500000000, by decide⟩

/-- Two instants of the second that follows. -/
def midnight : Instant :=
  ⟨1730505600, 0, by decide⟩

def afterMidnight : Instant :=
  ⟨1730505600, 200000000, by decide⟩

/-- Streams that begin in a leap second at midnight, and go on after it, get out of order in
every way. -/
theorem sorted_alignment_iff_midnight :
    ∃ set,
      align (samplesAt .kernelSocket [beforeMidnight, afterMidnight])
        (samplesAt .inKernelProbe [midnight]) (samplesAt .trafficGenerator [midnight]) =
          .ok set ∧
      (∀ x ∈ places (samplesAt .kernelSocket [beforeMidnight, afterMidnight])
        (samplesAt .inKernelProbe [midnight]) (samplesAt .trafficGenerator [midnight]),
          x.2.Sorted) ∧
      ¬ set.NoneNegative ∧ ¬ set.BeginsAtZero ∧ ¬ (set.get .kernelSocket).Sorted := by
  obtain ⟨set, hset⟩ := exists_eq_ok
    (x := align (samplesAt .kernelSocket [beforeMidnight, afterMidnight])
      (samplesAt .inKernelProbe [midnight]) (samplesAt .trafficGenerator [midnight])) (by decide)
  have hepoch : set.epoch = beforeMidnight := by
    have hmap : (align (samplesAt .kernelSocket [beforeMidnight, afterMidnight])
      (samplesAt .inKernelProbe [midnight]) (samplesAt .trafficGenerator [midnight])).toOption.map
        (·.epoch) = some beforeMidnight := by decide
    rw [hset] at hmap
    exact Option.some.inj hmap
  have hsorted : ∀ x ∈ places (samplesAt .kernelSocket [beforeMidnight, afterMidnight])
      (samplesAt .inKernelProbe [midnight]) (samplesAt .trafficGenerator [midnight]),
        x.2.Sorted := by
    simp [places, Source.all, TimedSeries.Sorted, samplesAt, Instant.le_iff, beforeMidnight,
      afterMidnight]
  -- half a second of the leap second is left, and midnight is not counted on from it
  have hseems : midnight.SeemsBefore set.epoch := by
    rw [hepoch]
    exact ⟨by decide, by decide, by decide, by decide⟩
  obtain ⟨hnone, hzero, -, hfar, -⟩ := sorted_alignment_iff _ _ _ set hset hsorted
  refine ⟨set, hset, hsorted, fun h => ?_, fun h => ?_, fun h => ?_⟩
  · exact hnone.1 h (.inKernelProbe, samplesAt .inKernelProbe [midnight])
      (by simp [places, Source.all]) ⟨midnight, Keyed.ofList []⟩ (by simp [samplesAt]) hseems
  · exact hzero.1 h (.inKernelProbe, samplesAt .inKernelProbe [midnight])
      (by simp [places, Source.all]) midnight rfl hseems
  · -- the sample after midnight is set back by far more than four microseconds
    have hpair := hfar (.kernelSocket, samplesAt .kernelSocket [beforeMidnight, afterMidnight])
      (by simp [places, Source.all]) h
    rw [hepoch] at hpair
    revert hpair
    decide

end FlowTriad
