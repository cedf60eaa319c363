/-
`Proofs/Variable/Units.lean` -- equal quantities are drawn equal.

The kernel counts windows in segments and the generator in bytes; the kernel's totals
grow and the generator reports each interval for itself. A variable's derivations undo
the difference, and what they make is divided by one divisor for all sources. So where
two sources agree on the quantity, the same number is divided by the same number.

That needs two things of doubles. A derivation must not round: the totals and products
of whole numbers up to `2 ^ 53` are exact, and a total that stays within that bound was
within it all along (`totalsFrom_values`). And dividing must not tell equal doubles
apart, or swap two that are not: it is monotone, also where it rounds
(`HasValue.div_le_div`). The quantity comes first and the division last, for every
source; a divisor that came before the sum would round at each step.
-/
import FlowTriad.Proofs.Double.Addition
import FlowTriad.Proofs.Double.Finite
import FlowTriad.Proofs.Variable.Points

set_option autoImplicit false

namespace FlowTriad

open Double

variable {s : Settings} {v : Variable} {set : SeriesSet} {r : ResolvedVariable} {source : Source}

/-! ## 1. Whole numbers in samples -/

/-- That a sample has a whole number under a key. -/
def Sample.Holds (x : Sample) (key : String) (n : ℕ) : Prop :=
  ∃ a, x.fields.get? key = some a ∧ HasValue a n

/-- What a sample that holds a whole number gives for a variable that takes it as it is. -/
theorem Sample.Holds.hasValue {x : Sample} {y : Float} {n : ℕ}
    (hx : x.Holds (v.keyFor s.names source) n) (hd : v.derivationFor source ≠ .segmentScaled)
    (hy : Yields s v source x y) : HasValue y n := by
  obtain ⟨a, ha, hvalue⟩ := hx
  cases ha.symm.trans ((yields_iff_of_ne hd).1 hy)
  exact hvalue

/-- What a sample that holds a number of segments and their size gives for a variable that
counts in segments. -/
theorem Sample.Holds.hasValue_mul {x : Sample} {y : Float} {n m : ℕ}
    (hn : x.Holds (v.keyFor s.names source) n) (hm : x.Holds s.segmentSizeKey m)
    (hle : n * m ≤ 2 ^ 53) (hd : v.derivationFor source = .segmentScaled)
    (hy : Yields s v source x y) : HasValue y (n * m : ℕ) := by
  obtain ⟨a, size, ha, hsize, rfl⟩ := (yields_iff_of_eq hd).1 hy
  obtain ⟨a', ha', hvalue⟩ := hn
  obtain ⟨size', hsize', hvalue'⟩ := hm
  cases ha.symm.trans ha'
  cases hsize.symm.trans hsize'
  exact hvalue.mul_natCast hvalue' hle

/-! ## 2. Running totals -/

/-- **Running totals are exact** while they stay within `2 ^ 53`: the one at a position is
the sum of the numbers up to there and the total so far. -/
theorem totalsFrom_values {total : Float} {m : ℕ} {xs : List Float} {ns : List ℕ}
    (htotal : HasValue total m) (h : List.Forall₂ (fun x (n : ℕ) => HasValue x n) xs ns)
    (hsum : m + ns.sum ≤ 2 ^ 53) {i : ℕ} (hi : i < ns.length) :
    ∃ y, (TimedSeries.totalsFrom total xs)[i]? = some y ∧
      HasValue y (m + (ns.take (i + 1)).sum : ℕ) := by
  -- the total so far runs along, and what is left of the bound is enough for the rest
  induction h generalizing total m i with
  | nil => cases hi
  | @cons x n xs ns hx _ ih =>
    rw [List.sum_cons] at hsum
    have hfirst : HasValue (total + x) (m + n : ℕ) := htotal.add_natCast hx (by omega)
    rw [TimedSeries.totalsFrom]
    cases i with
    | zero => exact ⟨total + x, rfl, by simpa using hfirst⟩
    | succ i =>
      obtain ⟨y, hy, hvalue⟩ := ih hfirst (by omega) (Nat.lt_of_succ_lt_succ hi)
      refine ⟨y, by rw [List.getElem?_cons_succ, hy], ?_⟩
      rw [List.take_succ_cons, List.sum_cons, ← Nat.add_assoc]
      exact hvalue

theorem runningTotal_values {xs : List Float} {ns : List ℕ}
    (h : List.Forall₂ (fun x (n : ℕ) => HasValue x n) xs ns) (hsum : ns.sum ≤ 2 ^ 53) {i : ℕ}
    (hi : i < ns.length) :
    ∃ y, (runningTotal xs)[i]? = some y ∧ HasValue y ((ns.take (i + 1)).sum : ℕ) := by
  have hzero : HasValue 0.0 (0 : ℕ) := by exact_mod_cast hasValue_zero
  obtain ⟨y, hy, hvalue⟩ := totalsFrom_values hzero h (by omega) hi
  exact ⟨y, hy, by simpa using hvalue⟩

/-! ## 3. Values that are drawn -/

/-- The value at a position of a source's points. -/
def ResolvedVariable.value? (r : ResolvedVariable) (source : Source) (i : ℕ) : Option Float :=
  (r.get? source).bind fun p => p.points[i]?.map (·.2)

/-- The values are the derived numbers of the samples, divided. -/
theorem value?_of_resolve (hset : set.InPlace) (hr : resolve s set v = .ok r) (source : Source) :
    ∃ raw, List.Forall₂ (Yields s v source) (set.get source).samples raw ∧
      ∀ i, r.value? source i = (derived (v.derivationFor source) raw)[i]?.map (· / v.scale) := by
  obtain ⟨p, hp, hresolve⟩ := get?_of_resolve hset hr source
  obtain ⟨raw, hraw, hvalues⟩ := values_of_resolve hresolve
  rw [hset source] at hraw hvalues
  refine ⟨raw, hraw, fun i => ?_⟩
  unfold ResolvedVariable.value?
  rw [hp, Option.bind_some, ← List.getElem?_map, hvalues, List.getElem?_map]

/-- That a value of a source is a quantity divided by the variable's divisor. -/
def ResolvedVariable.Shows (r : ResolvedVariable) (scale : Float) (source : Source) (i n : ℕ) :
    Prop :=
  ∃ a, HasValue a n ∧ r.value? source i = some (a / scale)

/-- Where nothing is summed up, a sample shows the number that it gives. -/
theorem shows_of_yields (hset : set.InPlace) (hr : resolve s set v = .ok r)
    (hd : v.derivationFor source ≠ .runningSum) {i n : ℕ} {x : Sample}
    (hx : (set.get source).samples[i]? = some x)
    (hvalue : ∀ y, Yields s v source x y → HasValue y n) : r.Shows v.scale source i n := by
  obtain ⟨raw, hraw, hvalues⟩ := value?_of_resolve hset hr source
  obtain ⟨y, hy, hyields⟩ := getElem?_of_forall₂ hraw hx
  refine ⟨y, hvalue y hyields, ?_⟩
  rw [hvalues, derived_of_ne hd, hy, Option.map_some]

/-- A number that a sample holds is shown at its position. -/
theorem shows_of_holds (hset : set.InPlace) (hr : resolve s set v = .ok r)
    (hd : v.derivationFor source = .identity) {i n : ℕ} {x : Sample}
    (hx : (set.get source).samples[i]? = some x) (hholds : x.Holds (v.keyFor s.names source) n) :
    r.Shows v.scale source i n := by
  refine shows_of_yields hset hr (by rw [hd]; decide) hx fun y hy => ?_
  exact hholds.hasValue (by rw [hd]; decide) hy

/-- Segments are shown in bytes, by the size that the same sample holds. -/
theorem shows_of_holds_segments (hset : set.InPlace) (hr : resolve s set v = .ok r)
    (hd : v.derivationFor source = .segmentScaled) {i n m : ℕ} {x : Sample}
    (hx : (set.get source).samples[i]? = some x) (hn : x.Holds (v.keyFor s.names source) n)
    (hm : x.Holds s.segmentSizeKey m) (hle : n * m ≤ 2 ^ 53) :
    r.Shows v.scale source i (n * m) := by
  refine shows_of_yields hset hr (by rw [hd]; decide) hx fun y hy => ?_
  exact hn.hasValue_mul hm hle hd hy

/-- Amounts are shown as their totals. -/
theorem shows_of_holds_amounts (hset : set.InPlace) (hr : resolve s set v = .ok r)
    (hd : v.derivationFor source = .runningSum) {amounts : List ℕ}
    (hholds : List.Forall₂ (fun x n => x.Holds (v.keyFor s.names source) n)
      (set.get source).samples amounts) (hsum : amounts.sum ≤ 2 ^ 53) {i : ℕ}
    (hi : i < amounts.length) : r.Shows v.scale source i (amounts.take (i + 1)).sum := by
  obtain ⟨raw, hraw, hvalues⟩ := value?_of_resolve hset hr source
  have hamounts : List.Forall₂ (fun x (n : ℕ) => HasValue x n) raw amounts :=
    forall₂_comp (fun y x n hy hn => hn.hasValue (by rw [hd]; decide) hy) hraw.flip hholds
  obtain ⟨y, hy, hytotal⟩ := runningTotal_values hamounts hsum hi
  refine ⟨y, hytotal, ?_⟩
  rw [hvalues, hd, derived_runningSum, hy, Option.map_some]

/-! ## 4. Agreement -/

/-- That a source and the generator are drawn equal at a position. -/
def ResolvedVariable.AgreesAt (r : ResolvedVariable) (source : Source) (i : ℕ) : Prop :=
  ∃ a b, r.value? source i = some a ∧ r.value? .trafficGenerator i = some b ∧ a == b

/-- A divisor that passes the check is a positive number. -/
theorem exists_scale {x : Float} (h : Settings.goodScale x) : ∃ p, HasValue x p ∧ 0 < p := by
  unfold Settings.goodScale at h
  rw [Bool.and_eq_true, decide_eq_true_eq] at h
  obtain ⟨p, hp⟩ := exists_hasValue h.1
  exact ⟨p, hp, (hasValue_zero.lt_iff hp).1 h.2⟩

theorem agreesAt_of_shows (hscale : Settings.goodScale v.scale) {i n : ℕ}
    (h : r.Shows v.scale source i n) (hg : r.Shows v.scale .trafficGenerator i n) :
    r.AgreesAt source i := by
  obtain ⟨p, hp, hpos⟩ := exists_scale hscale
  obtain ⟨a, ha, hvalue⟩ := h
  obtain ⟨b, hb, hvalue'⟩ := hg
  exact ⟨_, _, hvalue, hvalue', ha.div_beq_div hb hp hpos.ne'⟩

theorem derivationFor_of_native (v : Variable) (h : source.isKernelNative) :
    v.derivationFor source = v.kernelDerivation :=
  if_pos h

theorem derivationFor_generator (v : Variable) :
    v.derivationFor .trafficGenerator = v.generatorDerivation :=
  rfl

theorem lt_length_of_value? (hset : set.InPlace) (hr : resolve s set v = .ok r) {i : ℕ} {a : Float}
    (h : r.value? source i = some a) : i < (set.get source).samples.length := by
  obtain ⟨raw, hraw, hvalue⟩ := value?_of_resolve hset hr source
  obtain ⟨y, hy, -⟩ := Option.map_eq_some_iff.1 ((hvalue i).symm.trans h)
  obtain ⟨hlt, -⟩ := List.getElem?_eq_some_iff.1 hy
  rwa [length_derived, ← hraw.length_eq] at hlt

/-- Totals of amounts that are not negative do not fall. -/
theorem values_le_of_amounts (hscale : Settings.goodScale v.scale) (hset : set.InPlace)
    (hr : resolve s set v = .ok r) (hd : v.derivationFor source = .runningSum) {amounts : List ℕ}
    (hholds : List.Forall₂ (fun x n => x.Holds (v.keyFor s.names source) n)
      (set.get source).samples amounts) (hsum : amounts.sum ≤ 2 ^ 53) {i j : ℕ} {a b : Float}
    (hij : i ≤ j) (ha : r.value? source i = some a) (hb : r.value? source j = some b) : a ≤ b := by
  obtain ⟨p, hp, hpos⟩ := exists_scale hscale
  have hi : i < amounts.length := hholds.length_eq ▸ lt_length_of_value? hset hr ha
  have hj : j < amounts.length := hholds.length_eq ▸ lt_length_of_value? hset hr hb
  obtain ⟨x, hx, hvalue⟩ := shows_of_holds_amounts hset hr hd hholds hsum hi
  obtain ⟨y, hy, hvalue'⟩ := shows_of_holds_amounts hset hr hd hholds hsum hj
  cases hvalue.symm.trans ha
  cases hvalue'.symm.trans hb
  refine hx.div_le_div hy hp hpos (Nat.cast_le.2 ?_)
  have hbegin : List.Sublist (amounts.take (i + 1)) (amounts.take (j + 1)) :=
    List.take_sublist_take_left (by omega)
  exact hbegin.sum_le_sum fun n _ => Nat.zero_le n

/-- **Equal quantities are drawn equal**, for a variable with a divisor that passes the
check. It is drawn when all samples have the fields it is made of. Then a source that
counts as the kernel does agrees with the generator at a position,

* if the one reports totals and the other amounts, where the total is the sum of the
  amounts up to there; and the generator's values do not fall;
* if the one counts segments and the other bytes, where the bytes are as many as the
  segments of that sample have with the size in that sample. -/
theorem equal_quantities_drawn_equal (s : Settings) (hset : set.InPlace)
    (hscale : Settings.goodScale v.scale) :
    ((∃ r, resolve s set v = .ok r) ↔
      ∀ source, ∀ x ∈ (set.get source).samples, HasFields s v source x) ∧
    ∀ r, resolve s set v = .ok r →
      (v.kernelDerivation = .identity → v.generatorDerivation = .runningSum →
        ∀ amounts : List ℕ, amounts.sum ≤ 2 ^ 53 →
        List.Forall₂ (fun x n => x.Holds (v.keyFor s.names .trafficGenerator) n)
          (set.get .trafficGenerator).samples amounts →
        (∀ source, source.isKernelNative → ∀ i x, i < amounts.length →
          (set.get source).samples[i]? = some x →
          x.Holds (v.keyFor s.names source) (amounts.take (i + 1)).sum → r.AgreesAt source i) ∧
        ∀ i j a b, i ≤ j → r.value? .trafficGenerator i = some a →
          r.value? .trafficGenerator j = some b → a ≤ b) ∧
      (v.kernelDerivation = .segmentScaled → v.generatorDerivation = .identity →
        ∀ source, source.isKernelNative → ∀ i x y n m,
          (set.get source).samples[i]? = some x →
          (set.get .trafficGenerator).samples[i]? = some y →
          x.Holds (v.keyFor s.names source) n → x.Holds s.segmentSizeKey m → n * m ≤ 2 ^ 53 →
          y.Holds (v.keyFor s.names .trafficGenerator) (n * m) → r.AgreesAt source i) := by
  refine ⟨exists_resolve_iff hset, fun r hr => ⟨?_, ?_⟩⟩
  · intro hkernel hgenerator amounts hsum hholds
    rw [← derivationFor_generator] at hgenerator
    refine ⟨?_, ?_⟩
    · intro source hnative i x hi hx htotal
      have hd := (derivationFor_of_native v hnative).trans hkernel
      refine agreesAt_of_shows hscale (shows_of_holds hset hr hd hx htotal) ?_
      exact shows_of_holds_amounts hset hr hgenerator hholds hsum hi
    · intro i j a b hij ha hb
      exact values_le_of_amounts hscale hset hr hgenerator hholds hsum hij ha hb
  · intro hkernel hgenerator source hnative i x y n m hx hy hn hm hle hbytes
    have hd := (derivationFor_of_native v hnative).trans hkernel
    rw [← derivationFor_generator] at hgenerator
    refine agreesAt_of_shows hscale (shows_of_holds_segments hset hr hd hx hn hm hle) ?_
    exact shows_of_holds hset hr hgenerator hy hbytes

/-- A sample at the epoch with whole numbers. -/
def sampleHolding (fields : List (String × ℕ)) : Sample :=
  ⟨0.0, Keyed.ofList (fields.map fun (key, n) => (key, n.toUInt64.toFloat))⟩

/-- Three series that agree on a window and a total. -/
def agreeingSet : SeriesSet :=
  let kernel : List Sample :=
    [sampleHolding [("sndCwnd", 10), ("sndMss", 1448), ("bytesSent", 1000)],
      sampleHolding [("sndCwnd", 10), ("sndMss", 1460), ("bytesSent", 3500)]]
  ⟨tenths ⟨0, by decide⟩, .kernelSocket, ⟨.kernelSocket, kernel⟩, ⟨.inKernelProbe, kernel⟩,
    ⟨.trafficGenerator, [sampleHolding [("snd_cwnd", 14480), ("bytes", 1000)],
      sampleHolding [("snd_cwnd", 14600), ("bytes", 2500)]]⟩⟩

theorem agreeingSet_inPlace : agreeingSet.InPlace := by
  intro source
  cases source <;> rfl

/-- Both kinds of agreement, in the usual settings and of two of the usual variables. -/
theorem equal_quantities_drawn_equal_usual :
    (∃ r, resolve {} agreeingSet Variable.standard[4] = .ok r ∧ r.AgreesAt .kernelSocket 1) ∧
    ∃ r, resolve {} agreeingSet Variable.standard[2] = .ok r ∧ r.AgreesAt .inKernelProbe 1 := by
  have hholds {fields : List (String × ℕ)} {key : String} {n : ℕ} (hn : n < 2 ^ 53)
      (h : (sampleHolding fields).fields.get? key = some n.toUInt64.toFloat) :
      (sampleHolding fields).Holds key n := ⟨_, h, hasValue_toFloat hn⟩
  constructor
  · have hspec := equal_quantities_drawn_equal (v := Variable.standard[4]) {} agreeingSet_inPlace
      (by decide)
    obtain ⟨r, hr⟩ := exists_eq_ok (x := resolve {} agreeingSet Variable.standard[4]) (by decide)
    refine ⟨r, hr, ((hspec.2 r hr).1 rfl rfl [1000, 2500] (by decide) ?_).1 .kernelSocket rfl 1 _
      (by decide) rfl (hholds (by decide) (by decide))⟩
    exact .cons (hholds (by decide) (by decide)) (.cons (hholds (by decide) (by decide)) .nil)
  · have hspec := equal_quantities_drawn_equal (v := Variable.standard[2]) {} agreeingSet_inPlace
      (by decide)
    obtain ⟨r, hr⟩ := exists_eq_ok (x := resolve {} agreeingSet Variable.standard[2]) (by decide)
    exact ⟨r, hr, (hspec.2 r hr).2 rfl rfl .inKernelProbe rfl 1 _ _ 10 1460 rfl rfl
      (hholds (by decide) (by decide)) (hholds (by decide) (by decide)) (by decide)
      (hholds (by decide) (by decide))⟩

end FlowTriad
