/-
`Proofs/Variable/Specification.lean` -- what resolving a variable gives, said of the samples.

A variable is resolved by one pass over each series, which stops at the first sample that
lacks a field, and a second one that sums up where that is asked for. What comes out can
be said without a pass: what belongs at a position of a source is a function of the samples
up to there (`quantity?`), and what is missing is found by looking for the first source,
in it for the first sample, and of that for the first key that it needs and does not have
(`FirstLacking`).

`resolution_spec` says that the passes do this, and when they find nothing missing.
-/
import FlowTriad.Proofs.Variable.Points

set_option autoImplicit false

namespace FlowTriad

variable {s : Settings} {v : Variable} {source : Source} {xs : List Sample}

/-! ## 1. What belongs at a position -/

/-- The quantity that a source has at a position, before it is divided: the number of the
sample there, the product of that number and the sample's own segment size, or the sum
from zero of the numbers up to there. -/
def quantity? (s : Settings) (v : Variable) (source : Source) (xs : List Sample) (i : ℕ) :
    Option Float :=
  let own (x : Sample) : Option Float := x.fields.get? (v.keyFor s.names source)
  match v.derivationFor source with
  | .identity => do own (← xs[i]?)
  | .segmentScaled => do
      let x ← xs[i]?
      return (← own x) * (← x.fields.get? s.segmentSizeKey)
  | .runningSum =>
      if i < xs.length then ((xs.take (i + 1)).mapM own).map (·.foldl (· + ·) 0.0) else none

/-- The point that a source has at a position: the time of the sample there, and the
quantity divided. -/
def point? (s : Settings) (v : Variable) (source : Source) (xs : List Sample) (i : ℕ) :
    Option Point := do
  let x ← xs[i]?
  let d ← quantity? s v source xs i
  return (x.time, d / v.scale)

/-- What is read from each item of a list stands at the position of the item. -/
theorem bind_getElem?_of_forall₂ {α β : Type} {f : α → Option β} {as : List α} {bs : List β}
    (h : List.Forall₂ (fun a b => f a = some b) as bs) (i : ℕ) : as[i]?.bind f = bs[i]? := by
  cases ha : as[i]? with
  | none =>
    have hle : bs.length ≤ i := h.length_eq ▸ List.getElem?_eq_none_iff.1 ha
    rw [Option.bind_none, List.getElem?_eq_none_iff.2 hle]
  | some a =>
    obtain ⟨b, hb, hab⟩ := getElem?_of_forall₂ h ha
    rw [Option.bind_some, hab, hb]

/-- The derived numbers of a series are its quantities. -/
theorem quantity?_eq {raw : List Float} (h : List.Forall₂ (Yields s v source) xs raw) (i : ℕ) :
    quantity? s v source xs i = (derived (v.derivationFor source) raw)[i]? := by
  unfold quantity?
  cases hd : v.derivationFor source with
  | identity =>
    have hown := h.imp fun x y => (yields_iff_of_ne (by rw [hd]; decide)).1
    rw [derived_of_ne (by decide)]
    exact bind_getElem?_of_forall₂ hown i
  | segmentScaled =>
    rw [derived_of_ne (by decide), ← bind_getElem?_of_forall₂ (h.imp fun x y hxy => ?_) i]
    · rfl
    · obtain ⟨a, size, ha, hsize, rfl⟩ := (yields_iff_of_eq hd).1 hxy
      simp [ha, hsize]
  | runningSum =>
    -- an entry of the running totals is the sum of the entries up to there
    have hown := h.imp fun x y => (yields_iff_of_ne (by rw [hd]; decide)).1
    rw [derived_runningSum]
    unfold runningTotal
    by_cases hi : i < xs.length
    · have htake := mapM_eq_some.2 (List.forall₂_take (i + 1) hown)
      simp only [if_pos hi]
      rw [htake, TimedSeries.getElem?_totalsFrom (h.length_eq ▸ hi), Option.map_some]
    · simp only [if_neg hi]
      refine (List.getElem?_eq_none_iff.2 ?_).symm
      rw [TimedSeries.length_totalsFrom, ← h.length_eq]
      exact not_lt.1 hi

/-- **The points of a series** are what belongs at its positions. -/
theorem Series.getElem?_points_of_resolve {series : Series} {p : PointSeries}
    (h : series.resolve s v = .ok p) (i : ℕ) :
    p.points[i]? = point? s v series.source series.samples i := by
  obtain ⟨raw, hraw, rfl⟩ := Series.resolve_eq_ok.1 h
  unfold point?
  rw [quantity?_eq hraw]
  show (List.zip _ _)[i]? = _
  rw [List.zip, List.getElem?_zipWith, List.getElem?_map, List.getElem?_map]
  cases series.samples[i]? with
  | none => rfl
  | some x => cases (derived (v.derivationFor series.source) raw)[i]? <;> rfl

/-! ## 2. What is missing -/

/-- The keys that a variable needs of a source, in the order in which they are looked
for. -/
def neededKeys (s : Settings) (v : Variable) (source : Source) : List String :=
  v.keyFor s.names source ::
    if v.derivationFor source = .segmentScaled then [s.segmentSizeKey] else []

/-- The first key that a variable needs and a sample does not have. -/
def lackingKey? (s : Settings) (v : Variable) (source : Source) (x : Sample) : Option String :=
  (neededKeys s v source).find? fun key => (x.fields.get? key).isNone

/-- A sample gives no number when it lacks a key, and the first one is named. -/
theorem sampleValue_eq_error {x : Sample} {key : String} :
    sampleValue (v.keyFor s.names source) s.segmentSizeKey (v.derivationFor source) x.fields =
        .error key ↔ lackingKey? s v source x = some key := by
  unfold sampleValue lackingKey? neededKeys
  cases hown : x.fields.get? (v.keyFor s.names source) with
  | none => simp [hown]
  | some a =>
    cases v.derivationFor source with
    | identity | runningSum => simp [hown]
    | segmentScaled =>
      cases hsize : x.fields.get? s.segmentSizeKey with
      | none => simp [hown, hsize]
      | some size => simp [hown, hsize]

/-- The position that is named is that of the first sample that gives no number. -/
theorem sampleValues_eq_error {value : NumericFields → Except String Float} {first n : ℕ}
    {key : String} :
    sampleValues value first xs = .error (n, key) ↔
      ∃ i x, n = first + i ∧ xs[i]? = some x ∧ value x.fields = .error key ∧
        ∀ y ∈ xs.take i, ∃ a, value y.fields = .ok a := by
  induction xs generalizing first with
  | nil => simp [sampleValues]
  | cons x xs ih =>
    rw [sampleValues]
    cases hx : value x.fields with
    | error missing =>
      constructor
      · intro h
        cases h
        exact ⟨0, x, rfl, rfl, hx, List.forall_mem_nil _⟩
      · rintro ⟨i, y, rfl, hy, hkey, hearlier⟩
        cases i with
        | zero =>
          cases hy
          cases hx.symm.trans hkey
          rfl
        | succ i =>
          -- the first sample would have to give a number
          obtain ⟨a, ha⟩ := hearlier x List.mem_cons_self
          cases hx.symm.trans ha
    | ok a =>
      rw [map_eq_error, ih]
      constructor
      · rintro ⟨i, y, rfl, hy, hkey, hearlier⟩
        refine ⟨i + 1, y, by omega, hy, hkey, ?_⟩
        rw [List.take_succ_cons, List.forall_mem_cons]
        exact ⟨⟨a, hx⟩, hearlier⟩
      · rintro ⟨i, y, rfl, hy, hkey, hearlier⟩
        cases i with
        | zero =>
          cases hy
          cases hx.symm.trans hkey
        | succ i =>
          rw [List.take_succ_cons, List.forall_mem_cons] at hearlier
          exact ⟨i, y, by omega, hy, hkey, hearlier.2⟩

/-- **A series leaves a variable unresolved** for the first sample that lacks a key, and the
first key that it lacks. -/
theorem Series.resolve_eq_error {series : Series} {u : Unresolved} :
    series.resolve s v = .error u ↔
      u.name = v.name ∧ u.source = series.source ∧
        ∃ x, series.samples[u.sample]? = some x ∧
          lackingKey? s v series.source x = some u.key ∧
          ∀ y ∈ series.samples.take u.sample, HasFields s v series.source y := by
  have hvalues (n : ℕ) (key : String) :
      sampleValues (sampleValue (v.keyFor s.names series.source) s.segmentSizeKey
          (v.derivationFor series.source)) 0 series.samples = .error (n, key) ↔
        ∃ x, series.samples[n]? = some x ∧ lackingKey? s v series.source x = some key ∧
          ∀ y ∈ series.samples.take n, HasFields s v series.source y := by
    simp only [sampleValues_eq_error, sampleValue_eq_error, ← exists_yields_iff, Nat.zero_add]
    constructor
    · rintro ⟨i, x, rfl, hx, hkey, hearlier⟩
      exact ⟨x, hx, hkey, hearlier⟩
    · rintro ⟨x, hx, hkey, hearlier⟩
      exact ⟨n, x, rfl, hx, hkey, hearlier⟩
  obtain ⟨name, source, key, n⟩ := u
  simp only
  rw [← hvalues]
  unfold Series.resolve
  simp only
  split
  · next i missing heq =>
    rw [heq]
    simp only [Except.error.injEq, Unresolved.mk.injEq, Prod.mk.injEq]
    constructor
    · rintro ⟨rfl, rfl, rfl, rfl⟩
      exact ⟨rfl, rfl, rfl, rfl⟩
    · rintro ⟨rfl, rfl, rfl, rfl⟩
      exact ⟨rfl, rfl, rfl, rfl⟩
  · next raw heq =>
    rw [heq]
    simp

/-- That what is named as missing is what is missed first: of the sources the first one with
a sample that lacks a key, of its samples the first, and of the keys that are looked for in
it the first. -/
structure FirstLacking (s : Settings) (v : Variable) (set : SeriesSet) (u : Unresolved) :
    Prop where
  name : u.name = v.name
  sources : ∃ earlier later, Source.all = earlier ++ u.source :: later ∧
    ∀ source ∈ earlier, ∀ x ∈ (set.get source).samples, HasFields s v source x
  samples : ∃ x, (set.get u.source).samples[u.sample]? = some x ∧
    lackingKey? s v u.source x = some u.key ∧
    ∀ y ∈ (set.get u.source).samples.take u.sample, HasFields s v u.source y

theorem resolve_eq_error {set : SeriesSet} (hset : set.InPlace) {u : Unresolved} :
    resolve s set v = .error u ↔ FirstLacking s v set u := by
  have hsources : resolve s set v = .error u ↔
      Source.all.mapM (fun source => (set.get source).resolve s v) = .error u := by
    unfold resolve SeriesSet.toList
    rw [map_eq_error, List.mapM_map]
    rfl
  rw [hsources, mapM_eq_error]
  simp only [Series.resolve_eq_error, Series.exists_resolve_iff, hset _]
  constructor
  · rintro ⟨earlier, source, later, hall, ⟨hname, rfl, hsamples⟩, hearlier⟩
    exact ⟨hname, ⟨earlier, later, hall, hearlier⟩, hsamples⟩
  · rintro ⟨hname, ⟨earlier, later, hall, hearlier⟩, hsamples⟩
    exact ⟨earlier, u.source, later, hall, ⟨hname, rfl, hsamples⟩, hearlier⟩

/-! ## 3. The whole -/

/-- **What resolving does**, for a set that was made by aligning.

* A variable is resolved when every sample of every source has the fields that it is made
  of.
* Then each source has, in the order of sources, one point for each of its samples, and the
  one at a position is what belongs there.
* Otherwise what is named as missing is what is missed first. -/
theorem resolution_spec {kernel probe generator : TimedSeries} {set : SeriesSet}
    (h : align kernel probe generator = .ok set) (s : Settings) (v : Variable) :
    ((∃ r, resolve s set v = .ok r) ↔
      ∀ source, ∀ x ∈ (set.get source).samples, HasFields s v source x) ∧
    (∀ r, resolve s set v = .ok r → r.description = v ∧
      List.Forall₂ (fun source p => p.source = source ∧
        p.points.length = (set.get source).samples.length ∧
        ∀ i, p.points[i]? = point? s v source (set.get source).samples i) Source.all r.series) ∧
    ∀ u, resolve s set v = .error u ↔ FirstLacking s v set u := by
  have hset := inPlace_of_align h
  refine ⟨exists_resolve_iff hset, fun r hr => ?_, fun u => resolve_eq_error hset⟩
  obtain ⟨hdescription, hseries⟩ := resolve_eq_ok.1 hr
  refine ⟨hdescription, hseries.imp fun source p hp => ?_⟩
  obtain ⟨hsource, htimes⟩ := times_of_resolve hp
  have hlength := congrArg List.length htimes
  rw [List.length_map, List.length_map] at hlength
  have hpoints := Series.getElem?_points_of_resolve hp
  rw [hset source] at hsource hpoints
  exact ⟨hsource, hlength, hpoints⟩

/-- A stream of samples with whole numbers, all made at one instant. -/
def streamHolding (source : Source) (samples : List (List (String × ℕ))) : TimedSeries :=
  ⟨source, samples.map fun fields =>
    ⟨tenths 0, Keyed.ofList (fields.map fun (key, n) => (key, n.toUInt64.toFloat))⟩⟩

/-- A window that the probe once gives without a segment size is named as lacking it, though
the generator has no window at all; and a round trip time that all give has its points. -/
theorem resolution_spec_segments :
    let window := [("sndCwnd", 10), ("sndMss", 1448), ("rtt", 25)]
    ∃ set r,
      align (streamHolding .kernelSocket [window])
        (streamHolding .inKernelProbe [window, [("sndCwnd", 11), ("rtt", 26)]])
        (streamHolding .trafficGenerator [[("rtt", 27)]]) = .ok set ∧
      FirstLacking {} Variable.standard[2] set ⟨"sndCwnd", .inKernelProbe, "sndMss", 1⟩ ∧
      resolve {} set Variable.standard[0] = .ok r ∧
      List.Forall₂ (fun source p => p.source = source ∧
        p.points.length = (set.get source).samples.length ∧
        ∀ i, p.points[i]? = point? {} Variable.standard[0] source (set.get source).samples i)
        Source.all r.series := by
  intro window
  obtain ⟨set, hset⟩ := exists_eq_ok (x := align (streamHolding .kernelSocket [window])
    (streamHolding .inKernelProbe [window, [("sndCwnd", 11), ("rtt", 26)]])
    (streamHolding .trafficGenerator [[("rtt", 27)]])) (by decide)
  have hlacking := (resolution_spec hset {} Variable.standard[2]).2.2
    ⟨"sndCwnd", .inKernelProbe, "sndMss", 1⟩
  obtain ⟨r, hr⟩ : ∃ r, resolve {} set Variable.standard[0] = .ok r := by
    cases hset
    exact exists_eq_ok (by decide)
  refine ⟨set, r, hset, hlacking.1 ?_, hr, ?_⟩
  · cases hset
    decide
  · exact ((resolution_spec hset {} Variable.standard[0]).2.1 r hr).2

end FlowTriad
