/-
`Proofs/Alignment/Specification.lean` -- what an alignment is.

Three streams are aligned, or refused for the first of two kinds of reasons: one stands
in the place of another, or one is empty. The order is fixed. All places are looked at
before any emptiness, and each in the order of sources.

What an alignment is, once there is one, is said by `Aligned` and without the steps
that find it: the epoch is the least of the first instants, its source the first that
has it, and every sample is there, in its place, with its distance from the epoch.
`align_spec` is the whole. The order of time within a stream plays no part in it.
-/
import FlowTriad.Alignment
import FlowTriad.Proofs.Instant.Distance
import FlowTriad.Proofs.Outcome
import Mathlib.Order.Bounds.Basic

set_option autoImplicit false

namespace FlowTriad

variable {kernel probe generator : TimedSeries}

/-! ## 1. The leftmost least candidate

The candidates for the epoch are looked at one after the other, and the one so far is
kept unless the next lies before it. What that leaves is the first of the least ones. -/

/-- A candidate that no other of a list lies before, and that is the first such. -/
structure LeftmostLeast (candidates : List (Instant × Source)) (m : Instant × Source) :
    Prop where
  le : ∀ x ∈ candidates, m.1 ≤ x.1
  first : candidates.find? (·.1 = m.1) = some m

theorem LeftmostLeast.single (a : Instant × Source) : LeftmostLeast [a] a where
  le := by simp
  first := by simp

/-- **One more candidate.** What was the leftmost least stays so unless the new one is
strictly before it, which is why a tie goes to the one that came first. -/
theorem LeftmostLeast.append {candidates : List (Instant × Source)} {m : Instant × Source}
    (h : LeftmostLeast candidates m) (c : Instant × Source) :
    LeftmostLeast (candidates ++ [c]) (earlier m c) := by
  by_cases hlt : c.1 < m.1
  · have hc : earlier m c = c := by
      unfold earlier
      rw [if_pos (Instant.before_iff_lt.2 hlt)]
    rw [hc]
    constructor
    · intro x hx
      rw [List.mem_append, List.mem_singleton] at hx
      obtain hx | rfl := hx
      · exact hlt.le.trans (h.le x hx)
      · exact le_rfl
    · -- nothing before it is as early as the new one
      have hnone : candidates.find? (·.1 = c.1) = none := by
        rw [List.find?_eq_none]
        intro x hx heq
        rw [decide_eq_true_eq] at heq
        exact (heq ▸ hlt).not_ge (h.le x hx)
      rw [List.find?_append, hnone]
      simp
  · have hm : earlier m c = m := by
      unfold earlier
      rw [if_neg (mt Instant.before_iff_lt.1 hlt)]
    rw [hm]
    constructor
    · intro x hx
      rw [List.mem_append, List.mem_singleton] at hx
      obtain hx | rfl := hx
      · exact h.le x hx
      · exact Instant.not_lt.1 hlt
    · rw [List.find?_append, h.first]
      rfl

theorem LeftmostLeast.mem {candidates : List (Instant × Source)} {m : Instant × Source}
    (h : LeftmostLeast candidates m) : m ∈ candidates :=
  List.mem_of_find?_eq_some h.first

/-! ## 2. What an alignment is -/

/-- The three streams, each with the source whose place it is in. -/
def places (kernel probe generator : TimedSeries) : List (Source × TimedSeries) :=
  Source.all.zip [kernel, probe, generator]

/-- Every source has a place. -/
theorem exists_mem_places (kernel probe generator : TimedSeries) (source : Source) :
    ∃ s, (source, s) ∈ places kernel probe generator := by
  cases source with
  | kernelSocket => exact ⟨kernel, by simp [places, Source.all]⟩
  | inKernelProbe => exact ⟨probe, by simp [places, Source.all]⟩
  | trafficGenerator => exact ⟨generator, by simp [places, Source.all]⟩

/-- The first place that another source is in, and that source. -/
def misplaced? (kernel probe generator : TimedSeries) : Option (Source × Source) :=
  ((places kernel probe generator).find? fun x => x.2.source ≠ x.1).map
    fun x => (x.1, x.2.source)

/-- The first place with an empty stream. -/
def empty? (kernel probe generator : TimedSeries) : Option Source :=
  ((places kernel probe generator).find? fun x => x.2.samples.isEmpty).map (·.1)

/-- What it is for three streams to be aligned in a set. -/
structure Aligned (kernel probe generator : TimedSeries) (set : SeriesSet) : Prop where
  /-- The epoch is the least of the first instants. -/
  epoch_isLeast : IsLeast {t | ∃ s ∈ [kernel, probe, generator], s.first? = some t} set.epoch
  /-- It is named for the first source whose stream begins there. -/
  epochSource_first :
    ((places kernel probe generator).find? fun x => x.2.first? = some set.epoch).map (·.1) =
      some set.epochSource
  /-- Whatever begins at the epoch begins at zero. -/
  tied_zero : ∀ x ∈ places kernel probe generator, x.2.first? = some set.epoch →
    (set.get x.1).samples.head?.map (·.time) = some 0.0
  /-- Every place has its series, with all the samples of its stream in their order, and
  each at its distance from the epoch. -/
  get_eq : ∀ x ∈ places kernel probe generator, set.get x.1 =
    ⟨x.1, x.2.samples.map fun y => ⟨set.epoch.secondsTo y.instant, y.fields⟩⟩

/-! ## 3. The steps -/

theorem candidate_of_first {s : TimedSeries} {t : Instant} (h : s.first? = some t) :
    s.candidate = .ok (t, s.source) := by
  unfold TimedSeries.candidate
  rw [h]

theorem candidate_of_empty {s : TimedSeries} (h : s.samples.isEmpty) :
    s.candidate = .error (.emptySeries s.source) := by
  unfold TimedSeries.candidate TimedSeries.first?
  rw [List.isEmpty_iff.1 h]
  rfl

theorem exists_first {s : TimedSeries} (h : s.samples.isEmpty = false) :
    ∃ t, s.first? = some t := by
  unfold TimedSeries.first?
  cases hs : s.samples with
  | nil => simp [hs] at h
  | cons x xs => exact ⟨x.instant, rfl⟩

/-- A stream that begins at the epoch begins at zero. -/
theorem since_head_time {epoch : Instant} {s : TimedSeries} (h : s.first? = some epoch) :
    (s.since epoch).samples.head?.map (·.time) = some 0.0 := by
  unfold TimedSeries.first? at h
  cases hs : s.samples with
  | nil => simp [hs] at h
  | cons x xs =>
    have hx : x.instant = epoch := by simpa [hs] using h
    unfold TimedSeries.since
    rw [hs, hx.symm]
    simp [Instant.secondsTo_self]

/-- Looking for a stream by its first instant asks for nothing but first instants. -/
theorem find_places_first (e : Instant) :
    ((places kernel probe generator).find? fun x => x.2.first? = some e).map (·.1) =
      ((Source.all.zip [kernel.first?, probe.first?, generator.first?]).find?
        fun x => x.2 = some e).map (·.1) := by
  unfold places Source.all
  simp only [List.zip_cons_cons, List.zip_nil_right]
  by_cases hk : kernel.first? = some e
  · simp [hk]
  · by_cases hp : probe.first? = some e
    · simp [hk, hp]
    · by_cases hg : generator.first? = some e
      · simp [hk, hp, hg]
      · simp [hk, hp, hg]

/-- So the first stream that begins somewhere is the first candidate from there. -/
theorem find_first_candidate {tk tp tg e : Instant} :
    ((Source.all.zip [some tk, some tp, some tg]).find? fun x => x.2 = some e).map (·.1) =
      ([(tk, Source.kernelSocket), (tp, .inKernelProbe), (tg, .trafficGenerator)].find?
        (·.1 = e)).map (·.2) := by
  unfold Source.all
  simp only [List.zip_cons_cons, List.zip_nil_right]
  by_cases hk : tk = e
  · simp [hk]
  · by_cases hp : tp = e
    · simp [hk, hp]
    · by_cases hg : tg = e
      · simp [hk, hp, hg]
      · simp [hk, hp, hg]

/-- The set that three streams are put into from an epoch. -/
def placed (kernel probe generator : TimedSeries) (m : Instant × Source) : SeriesSet :=
  ⟨m.1, m.2, kernel.since m.1, probe.since m.1, generator.since m.1⟩

theorem align_eq_ok {tk tp tg : Instant} (hks : kernel.source = .kernelSocket)
    (hps : probe.source = .inKernelProbe) (hgs : generator.source = .trafficGenerator)
    (hk : kernel.first? = some tk) (hp : probe.first? = some tp)
    (hg : generator.first? = some tg) :
    align kernel probe generator = .ok (placed kernel probe generator
      (earlier (earlier (tk, .kernelSocket) (tp, .inKernelProbe)) (tg, .trafficGenerator))) := by
  unfold align
  rw [candidate_of_first hk, candidate_of_first hp, candidate_of_first hg]
  simp only [TimedSeries.inPlace, hks, hps, hgs, if_true]
  rfl

/-- What the streams are put into from the leftmost least of their first instants has
all that is asked of an alignment. -/
theorem aligned_placed {tk tp tg : Instant} {m : Instant × Source}
    (hks : kernel.source = .kernelSocket) (hps : probe.source = .inKernelProbe)
    (hgs : generator.source = .trafficGenerator) (hk : kernel.first? = some tk)
    (hp : probe.first? = some tp) (hg : generator.first? = some tg)
    (hleast : LeftmostLeast
      [(tk, .kernelSocket), (tp, .inKernelProbe), (tg, .trafficGenerator)] m) :
    Aligned kernel probe generator (placed kernel probe generator m) := by
  constructor
  · -- the least of the candidates is the least of the first instants
    constructor
    · have hmem := hleast.mem
      simp only [List.mem_cons, List.not_mem_nil, or_false] at hmem
      obtain rfl | rfl | rfl := hmem
      · exact ⟨kernel, by simp, hk⟩
      · exact ⟨probe, by simp, hp⟩
      · exact ⟨generator, by simp, hg⟩
    · rintro t ⟨s, hs, ht⟩
      simp only [List.mem_cons, List.not_mem_nil, or_false] at hs
      obtain rfl | rfl | rfl := hs
      · rw [Option.some.inj (ht.symm.trans hk)]
        exact hleast.le (tk, .kernelSocket) (by simp)
      · rw [Option.some.inj (ht.symm.trans hp)]
        exact hleast.le (tp, .inKernelProbe) (by simp)
      · rw [Option.some.inj (ht.symm.trans hg)]
        exact hleast.le (tg, .trafficGenerator) (by simp)
  · have hfirst := hleast.first
    rw [find_places_first, hk, hp, hg, find_first_candidate]
    exact congrArg (Option.map (·.2)) hfirst
  · -- a distance of zero is counted as zero and divided to zero
    intro x hx hfirst
    simp only [places, Source.all, List.zip_cons_cons, List.zip_nil_right, List.mem_cons,
      List.not_mem_nil, or_false] at hx
    obtain rfl | rfl | rfl := hx
    all_goals exact since_head_time hfirst
  · intro x hx
    simp only [places, Source.all, List.zip_cons_cons, List.zip_nil_right, List.mem_cons,
      List.not_mem_nil, or_false] at hx
    obtain rfl | rfl | rfl := hx
    · simp [SeriesSet.get, placed, TimedSeries.since, hks]
    · simp [SeriesSet.get, placed, TimedSeries.since, hps]
    · simp [SeriesSet.get, placed, TimedSeries.since, hgs]

/-! ## 4. Refusals, and the whole -/

/-- **The wrong place.** Places are looked at before anything else. -/
theorem align_of_misplaced {expected actual : Source}
    (h : misplaced? kernel probe generator = some (expected, actual)) :
    align kernel probe generator = .error (.settings (.misplaced expected actual)) := by
  -- the first test that fails is the one of the first misplaced stream
  unfold align TimedSeries.inPlace
  by_cases hks : kernel.source = .kernelSocket
  · rw [if_pos hks]
    by_cases hps : probe.source = .inKernelProbe
    · rw [if_pos hps]
      by_cases hgs : generator.source = .trafficGenerator
      · simp [misplaced?, places, Source.all, hks, hps, hgs] at h
      · rw [if_neg hgs]
        obtain ⟨rfl, rfl⟩ : Source.trafficGenerator = expected ∧ generator.source = actual := by
          simpa [misplaced?, places, Source.all, hks, hps, hgs] using h
        rfl
    · rw [if_neg hps]
      obtain ⟨rfl, rfl⟩ : Source.inKernelProbe = expected ∧ probe.source = actual := by
        simpa [misplaced?, places, Source.all, hks, hps] using h
      rfl
  · rw [if_neg hks]
    obtain ⟨rfl, rfl⟩ : Source.kernelSocket = expected ∧ kernel.source = actual := by
      simpa [misplaced?, places, Source.all, hks] using h
    rfl

/-- **Nothing to align.** Of streams in their places, the first empty one is named. -/
theorem align_of_empty {source : Source} (hplaces : misplaced? kernel probe generator = none)
    (h : empty? kernel probe generator = some source) :
    align kernel probe generator = .error (.emptySeries source) := by
  obtain ⟨hks, hps, hgs⟩ : kernel.source = .kernelSocket ∧ probe.source = .inKernelProbe ∧
      generator.source = .trafficGenerator := by
    simpa [misplaced?, places, Source.all] using hplaces
  unfold align
  simp only [TimedSeries.inPlace, hks, hps, hgs, if_true]
  -- a stream before the first empty one has a candidate, and the empty one ends the search
  by_cases hk : kernel.samples.isEmpty
  · rw [candidate_of_empty hk, hks]
    obtain rfl : Source.kernelSocket = source := by
      simpa [empty?, places, Source.all, hk] using h
    rfl
  · obtain ⟨tk, htk⟩ := exists_first (Bool.eq_false_iff.2 hk)
    rw [candidate_of_first htk]
    by_cases hp : probe.samples.isEmpty
    · rw [candidate_of_empty hp, hps]
      obtain rfl : Source.inKernelProbe = source := by
        simpa [empty?, places, Source.all, hk, hp] using h
      rfl
    · obtain ⟨tp, htp⟩ := exists_first (Bool.eq_false_iff.2 hp)
      rw [candidate_of_first htp]
      by_cases hg : generator.samples.isEmpty
      · rw [candidate_of_empty hg, hgs]
        obtain rfl : Source.trafficGenerator = source := by
          simpa [empty?, places, Source.all, hk, hp, hg] using h
        rfl
      · simp [empty?, places, Source.all, hk, hp, hg] at h

/-- **Nothing wrong.** Streams in their places, none of them empty, are aligned. -/
theorem align_of_good (hplaces : misplaced? kernel probe generator = none)
    (hempty : empty? kernel probe generator = none) :
    ∃ set, align kernel probe generator = .ok set ∧ Aligned kernel probe generator set := by
  obtain ⟨hks, hps, hgs⟩ : kernel.source = .kernelSocket ∧ probe.source = .inKernelProbe ∧
      generator.source = .trafficGenerator := by
    simpa [misplaced?, places, Source.all] using hplaces
  obtain ⟨hk, hp, hg⟩ : kernel.samples.isEmpty = false ∧ probe.samples.isEmpty = false ∧
      generator.samples.isEmpty = false := by
    simpa [empty?, places, Source.all] using hempty
  obtain ⟨tk, htk⟩ := exists_first hk
  obtain ⟨tp, htp⟩ := exists_first hp
  obtain ⟨tg, htg⟩ := exists_first hg
  refine ⟨_, align_eq_ok hks hps hgs htk htp htg, aligned_placed hks hps hgs htk htp htg ?_⟩
  -- the three candidates are compared one after the other
  exact ((LeftmostLeast.single _).append _).append _

/-- The epoch, and the source it is named for, are known from the first instants. -/
theorem Aligned.epoch_unique {kernel' probe' generator' : TimedSeries} {set set' : SeriesSet}
    (h : Aligned kernel probe generator set) (h' : Aligned kernel' probe' generator' set')
    (hk : kernel'.first? = kernel.first?) (hp : probe'.first? = probe.first?)
    (hg : generator'.first? = generator.first?) :
    set'.epoch = set.epoch ∧ set'.epochSource = set.epochSource := by
  have hepoch : set'.epoch = set.epoch := by
    have hleast' := h'.epoch_isLeast
    simp only [List.mem_cons, List.not_mem_nil, or_false, exists_eq_or_imp, exists_eq_left, hk,
      hp, hg] at hleast'
    have hleast := h.epoch_isLeast
    simp only [List.mem_cons, List.not_mem_nil, or_false, exists_eq_or_imp, exists_eq_left]
      at hleast
    exact hleast'.unique hleast
  -- with one epoch, both are named for the first stream that begins there
  refine ⟨hepoch, ?_⟩
  have hfirst' := h'.epochSource_first
  rw [find_places_first, hk, hp, hg, hepoch, ← find_places_first, h.epochSource_first]
    at hfirst'
  exact (Option.some.inj hfirst').symm

theorem aligned_of_align_eq_ok {set : SeriesSet} (h : align kernel probe generator = .ok set) :
    Aligned kernel probe generator set := by
  -- neither kind of refusal is a success, and otherwise there is one result
  cases hplaces : misplaced? kernel probe generator with
  | some x =>
    rw [align_of_misplaced hplaces] at h
    cases h
  | none =>
    cases hempty : empty? kernel probe generator with
    | some s =>
      rw [align_of_empty hplaces hempty] at h
      cases h
    | none =>
      obtain ⟨set', hset', haligned⟩ := align_of_good hplaces hempty
      rw [Except.ok.inj (h.symm.trans hset')]
      exact haligned

/-- **What aligning does.** The first source out of its place is refused before the
first empty stream is, and everything else is aligned. How the streams go on after
their first samples has no part in where the epoch is or whose it is. -/
theorem align_spec (kernel probe generator : TimedSeries) :
    (match misplaced? kernel probe generator, empty? kernel probe generator with
      | some (expected, actual), _ =>
          align kernel probe generator = .error (.settings (.misplaced expected actual))
      | none, some source => align kernel probe generator = .error (.emptySeries source)
      | none, none =>
          ∃ set, align kernel probe generator = .ok set ∧
            Aligned kernel probe generator set) ∧
    ∀ kernel' probe' generator' set set',
      align kernel probe generator = .ok set → align kernel' probe' generator' = .ok set' →
      kernel'.first? = kernel.first? → probe'.first? = probe.first? →
      generator'.first? = generator.first? →
      set'.epoch = set.epoch ∧ set'.epochSource = set.epochSource := by
  constructor
  · cases hplaces : misplaced? kernel probe generator with
    | some x => exact align_of_misplaced hplaces
    | none =>
      cases hempty : empty? kernel probe generator with
      | some source => exact align_of_empty hplaces hempty
      | none => exact align_of_good hplaces hempty
  · intro kernel' probe' generator' set set' h h' hk hp hg
    exact (aligned_of_align_eq_ok h).epoch_unique (aligned_of_align_eq_ok h') hk hp hg

/-- A stream that was measured at some instants, with nothing in its samples. -/
def samplesAt (source : Source) (instants : List Instant) : TimedSeries :=
  ⟨source, instants.map fun t => ⟨t, Keyed.ofList []⟩⟩

/-- A fraction of some second. -/
def tenths (n : Fin 10) : Instant :=
  ⟨1730563621, n * 100000000, by unfold Instant.Valid; revert n; decide⟩

/-- Streams that go back in time behind the epoch are aligned like those that do not, and
two that begin together are named by the first. -/
theorem align_spec_unsorted :
    ∃ set set',
      align (samplesAt .kernelSocket [tenths 7, tenths 0])
        (samplesAt .inKernelProbe [tenths 5, tenths 1])
        (samplesAt .trafficGenerator [tenths 5, tenths 9]) = .ok set ∧
      align (samplesAt .kernelSocket [tenths 7]) (samplesAt .inKernelProbe [tenths 5, tenths 6])
        (samplesAt .trafficGenerator [tenths 5, tenths 9]) = .ok set' ∧
      set'.epoch = set.epoch ∧ set'.epochSource = set.epochSource := by
  obtain ⟨set, hset⟩ := exists_eq_ok (x := align (samplesAt .kernelSocket [tenths 7, tenths 0])
    (samplesAt .inKernelProbe [tenths 5, tenths 1])
    (samplesAt .trafficGenerator [tenths 5, tenths 9])) (by decide)
  obtain ⟨set', hset'⟩ := exists_eq_ok (x := align (samplesAt .kernelSocket [tenths 7])
    (samplesAt .inKernelProbe [tenths 5, tenths 6])
    (samplesAt .trafficGenerator [tenths 5, tenths 9])) (by decide)
  exact ⟨set, set', hset, hset', (align_spec _ _ _).2 _ _ _ _ _ hset hset' rfl rfl rfl⟩

end FlowTriad
