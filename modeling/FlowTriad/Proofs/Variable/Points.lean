/-
`Proofs/Variable/Points.lean` -- the points of a variable, one for each sample.

What a variable makes of a series is made in two steps. First every sample gives a
number, or the series gives nothing (`Yields`). Then the numbers are derived and divided,
and paired with the times. No step drops or adds a number, so a series that gives
something gives a point for each sample (`Series.resolve_eq_ok`, `times_of_resolve`).

A variable is resolved for a set when it is for the three series. The settings and the
variable decide what is looked for by a series' own source, so what they say of a source
is said of its series where every series is in its place, as it is in every set that was
made by aligning (`inPlace_of_align`).
-/
import FlowTriad.Proofs.Alignment.Specification
import FlowTriad.Proofs.Items
import FlowTriad.Proofs.Timeline
import FlowTriad.Variable.Resolution

set_option autoImplicit false

namespace FlowTriad

variable {s : Settings} {v : Variable}

/-! ## 1. One series -/

/-- That a sample of a source gives a number for a variable. -/
def Yields (s : Settings) (v : Variable) (source : Source) (x : Sample) (y : Float) : Prop :=
  sampleValue (v.keyFor s.names source) s.segmentSizeKey (v.derivationFor source) x.fields = .ok y

/-- The number of a variable that does not count in segments is that of its own field. -/
theorem yields_iff_of_ne {source : Source} {x : Sample} {y : Float}
    (h : v.derivationFor source ≠ .segmentScaled) :
    Yields s v source x y ↔ x.fields.get? (v.keyFor s.names source) = some y := by
  unfold Yields sampleValue
  cases x.fields.get? (v.keyFor s.names source) with
  | none => simp
  | some a =>
    cases hd : v.derivationFor source with
    | segmentScaled => exact absurd hd h
    | identity | runningSum => simp

/-- The number of one that does is the product of two fields of the one sample. -/
theorem yields_iff_of_eq {source : Source} {x : Sample} {y : Float}
    (h : v.derivationFor source = .segmentScaled) :
    Yields s v source x y ↔
      ∃ a size, x.fields.get? (v.keyFor s.names source) = some a ∧
        x.fields.get? s.segmentSizeKey = some size ∧ a * size = y := by
  unfold Yields sampleValue
  rw [h]
  cases x.fields.get? (v.keyFor s.names source) with
  | none => simp
  | some a =>
    cases x.fields.get? s.segmentSizeKey with
    | none => simp
    | some size => simp [segmentScaled]

/-- Whether a sample of a source has the fields that a variable is made of. -/
def HasFields (s : Settings) (v : Variable) (source : Source) (x : Sample) : Prop :=
  (x.fields.get? (v.keyFor s.names source)).isSome ∧
    (v.derivationFor source = .segmentScaled → (x.fields.get? s.segmentSizeKey).isSome)

theorem exists_yields_iff {source : Source} {x : Sample} :
    (∃ y, Yields s v source x y) ↔ HasFields s v source x := by
  unfold HasFields
  rw [Option.isSome_iff_exists, Option.isSome_iff_exists]
  by_cases h : v.derivationFor source = .segmentScaled
  · simp only [yields_iff_of_eq h, h, true_imp_iff]
    constructor
    · rintro ⟨y, a, size, ha, hsize, -⟩
      exact ⟨⟨a, ha⟩, size, hsize⟩
    · rintro ⟨⟨a, ha⟩, size, hsize⟩
      exact ⟨a * size, a, size, ha, hsize, rfl⟩
  · simp only [yields_iff_of_ne h, h, false_imp_iff, and_true]

theorem sampleValues_eq_ok {value : NumericFields → Except String Float} {first : ℕ}
    {xs : List Sample} {ys : List Float} :
    sampleValues value first xs = .ok ys ↔
      List.Forall₂ (fun x y => value x.fields = .ok y) xs ys := by
  induction xs generalizing first ys with
  | nil =>
    rw [sampleValues, List.forall₂_nil_left_iff]
    exact ⟨fun h => (Except.ok.inj h).symm, fun h => h ▸ rfl⟩
  | cons x xs ih =>
    rw [sampleValues, List.forall₂_cons_left_iff]
    cases hx : value x.fields with
    | error key => simp
    | ok y =>
      rw [map_eq_ok]
      constructor
      · rintro ⟨rest, hrest, rfl⟩
        exact ⟨y, rest, rfl, ih.1 hrest, rfl⟩
      · rintro ⟨y', rest, hy, hrest, rfl⟩
        cases hy
        exact ⟨rest, ih.2 hrest, rfl⟩

/-- What a derivation makes of the numbers of a series. -/
def derived (d : Derivation) (raw : List Float) : List Float :=
  if d = .runningSum then runningTotal raw else raw

theorem derived_runningSum (raw : List Float) : derived .runningSum raw = runningTotal raw :=
  if_pos rfl

theorem derived_of_ne {d : Derivation} (h : d ≠ .runningSum) (raw : List Float) :
    derived d raw = raw :=
  if_neg h

theorem length_derived (d : Derivation) (raw : List Float) :
    (derived d raw).length = raw.length := by
  by_cases h : d = .runningSum
  · rw [h, derived_runningSum]
    exact TimedSeries.length_totalsFrom 0.0 raw
  · rw [derived_of_ne h]

/-- **A series gives points** when each of its samples gives a number. -/
theorem Series.resolve_eq_ok {series : Series} {p : PointSeries} :
    series.resolve s v = .ok p ↔
      ∃ raw, List.Forall₂ (Yields s v series.source) series.samples raw ∧
        p = ⟨series.source, (series.samples.map (·.time)).zip
          ((derived (v.derivationFor series.source) raw).map (· / v.scale))⟩ := by
  unfold Series.resolve
  simp only
  cases hraw : sampleValues (sampleValue (v.keyFor s.names series.source) s.segmentSizeKey
      (v.derivationFor series.source)) 0 series.samples with
  | error e =>
    constructor
    · intro h
      cases h
    · rintro ⟨raw, hyields, -⟩
      cases hraw.symm.trans (sampleValues_eq_ok.2 hyields)
  | ok raw =>
    constructor
    · intro h
      exact ⟨raw, sampleValues_eq_ok.1 hraw, (Except.ok.inj h).symm⟩
    · rintro ⟨raw', hyields, rfl⟩
      cases hraw.symm.trans (sampleValues_eq_ok.2 hyields)
      rfl

theorem Series.exists_resolve_iff {series : Series} :
    (∃ p, series.resolve s v = .ok p) ↔ ∀ x ∈ series.samples, HasFields s v series.source x := by
  simp only [Series.resolve_eq_ok, ← exists_yields_iff, ← exists_forall₂_iff]
  constructor
  · rintro ⟨p, raw, hraw, -⟩
    exact ⟨raw, hraw⟩
  · rintro ⟨raw, hraw⟩
    exact ⟨_, raw, hraw, rfl⟩

variable {series : Series} {p : PointSeries}

/-- **One point for each sample**, at the time of the sample. -/
theorem times_of_resolve (h : series.resolve s v = .ok p) :
    p.source = series.source ∧ p.points.map (·.1) = series.samples.map (·.time) := by
  obtain ⟨raw, hraw, rfl⟩ := Series.resolve_eq_ok.1 h
  refine ⟨rfl, List.map_fst_zip (Nat.le_of_eq ?_)⟩
  rw [List.length_map, List.length_map, length_derived, hraw.length_eq]

/-- And with the number that the sample has a part in. -/
theorem values_of_resolve (h : series.resolve s v = .ok p) :
    ∃ raw, List.Forall₂ (Yields s v series.source) series.samples raw ∧
      p.points.map (·.2) = (derived (v.derivationFor series.source) raw).map (· / v.scale) := by
  obtain ⟨raw, hraw, rfl⟩ := Series.resolve_eq_ok.1 h
  refine ⟨raw, hraw, List.map_snd_zip (Nat.le_of_eq ?_)⟩
  rw [List.length_map, List.length_map, length_derived, hraw.length_eq]

/-! ## 2. Three series -/

theorem Source.mem_all (source : Source) : source ∈ Source.all := by
  cases source <;> simp [Source.all]

/-- **A variable is resolved** when it is for each source. -/
theorem resolve_eq_ok {set : SeriesSet} {r : ResolvedVariable} :
    resolve s set v = .ok r ↔
      r.description = v ∧
        List.Forall₂ (fun source p => (set.get source).resolve s v = .ok p) Source.all r.series := by
  unfold resolve SeriesSet.toList
  rw [map_eq_ok]
  simp only [mapM_eq_ok, List.forall₂_map_left_iff]
  constructor
  · rintro ⟨series, h, rfl⟩
    exact ⟨rfl, h⟩
  · rintro ⟨rfl, h⟩
    exact ⟨r.series, h, rfl⟩

/-- The resolved variables of a set are those of the list that can be resolved. -/
theorem mem_resolved {set : SeriesSet} {vs : List Variable} {r : ResolvedVariable}
    (h : r ∈ (resolveAll s set vs).resolved) : ∃ v ∈ vs, resolve s set v = .ok r := by
  obtain ⟨x, hx, hr⟩ := List.mem_filterMap.1 h
  obtain ⟨v, hv, rfl⟩ := List.mem_map.1 hx
  refine ⟨v, hv, ?_⟩
  cases hv : resolve s set v with
  | error u =>
    rw [hv] at hr
    cases hr
  | ok r' =>
    rw [hv] at hr
    cases hr
    rfl

/-- Whether every series of a set is that of the source whose place it is in. -/
def SeriesSet.InPlace (set : SeriesSet) : Prop :=
  ∀ source, (set.get source).source = source

theorem inPlace_of_align {kernel probe generator : TimedSeries} {set : SeriesSet}
    (h : align kernel probe generator = .ok set) : set.InPlace := by
  intro source
  obtain ⟨t, ht⟩ := exists_mem_places kernel probe generator source
  rw [(aligned_of_align_eq_ok h).get_eq _ ht]

/-- **A variable is resolved** for a set in place when every sample of every source has the
fields that the variable is made of. -/
theorem exists_resolve_iff {set : SeriesSet} (hset : set.InPlace) :
    (∃ r, resolve s set v = .ok r) ↔
      ∀ source, ∀ x ∈ (set.get source).samples, HasFields s v source x := by
  have hall : (∃ r, resolve s set v = .ok r) ↔
      ∀ source ∈ Source.all, ∃ p, (set.get source).resolve s v = .ok p := by
    rw [← exists_forall₂_iff]
    constructor
    · rintro ⟨r, hr⟩
      exact ⟨r.series, (resolve_eq_ok.1 hr).2⟩
    · rintro ⟨series, h⟩
      exact ⟨⟨v, series⟩, resolve_eq_ok.2 ⟨rfl, h⟩⟩
  rw [hall]
  simp only [Series.exists_resolve_iff, hset _]
  constructor
  · intro h source
    exact h source (Source.mem_all source)
  · intro h source _
    exact h source

/-- In a set in place, the points of a source are those of its series. -/
theorem get?_of_resolve {set : SeriesSet} {r : ResolvedVariable} (hset : set.InPlace)
    (hr : resolve s set v = .ok r) (source : Source) :
    ∃ p, r.get? source = some p ∧ (set.get source).resolve s v = .ok p := by
  obtain ⟨-, hseries⟩ := resolve_eq_ok.1 hr
  obtain ⟨k, ps, hk, hps, heq⟩ := List.forall₂_cons_left_iff.1 hseries
  obtain ⟨p, gs, hp, hgs, rfl⟩ := List.forall₂_cons_left_iff.1 hps
  obtain ⟨g, _, hg, hnil, rfl⟩ := List.forall₂_cons_left_iff.1 hgs
  obtain rfl := List.forall₂_nil_left_iff.1 hnil
  have hks : k.source = .kernelSocket := (times_of_resolve hk).1.trans (hset _)
  have hps : p.source = .inKernelProbe := (times_of_resolve hp).1.trans (hset _)
  have hgs : g.source = .trafficGenerator := (times_of_resolve hg).1.trans (hset _)
  unfold ResolvedVariable.get?
  rw [heq]
  cases source with
  | kernelSocket => exact ⟨k, by simp [hks], hk⟩
  | inKernelProbe => exact ⟨p, by simp [hks, hps], hp⟩
  | trafficGenerator => exact ⟨g, by simp [hks, hps, hgs], hg⟩

end FlowTriad
