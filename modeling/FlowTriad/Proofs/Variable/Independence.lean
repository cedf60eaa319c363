/-
`Proofs/Variable/Independence.lean` -- that variables have nothing to do with each other.

Of a sample a variable looks at its own field and, where windows are counted in segments,
at the segment size. So two sets that agree on these, whatever else their samples hold, are
the same to the variable (`resolve_eq_of_same`), and this is so whether it can be resolved
or not.

A list of variables is gone through one by one. What one of them adds to what was resolved
or passed over before is what becomes of it alone (`accumulate_eq`), so what becomes of a
list is the results of its variables one after the other (`foldl_accumulate`).
-/
import FlowTriad.Proofs.Variable.Points

set_option autoImplicit false

namespace FlowTriad

variable {s : Settings} {v : Variable} {source : Source} {set set' : SeriesSet}

/-! ## 1. What a variable looks at -/

/-- That two samples of a source are the same to a variable: they are of one time, and
have the fields that the variable is made of with the same numbers, or both lack them. -/
structure Sample.SameFor (s : Settings) (v : Variable) (source : Source) (x x' : Sample) :
    Prop where
  time : x'.time = x.time
  own : x'.fields.get? (v.keyFor s.names source) = x.fields.get? (v.keyFor s.names source)
  size : v.derivationFor source = .segmentScaled →
    x'.fields.get? s.segmentSizeKey = x.fields.get? s.segmentSizeKey

/-- That two series are, sample by sample. -/
structure Series.SameFor (s : Settings) (v : Variable) (a a' : Series) : Prop where
  source : a'.source = a.source
  samples : List.Forall₂ (Sample.SameFor s v a.source) a.samples a'.samples

/-- That two sets are, whatever their epochs. -/
def SeriesSet.SameFor (s : Settings) (v : Variable) (set set' : SeriesSet) : Prop :=
  ∀ source, (set.get source).SameFor s v (set'.get source)

/-- Samples that are the same to a variable give the same number, or lack the same key. -/
theorem sampleValue_eq_of_same {x x' : Sample} (h : x.SameFor s v source x') :
    sampleValue (v.keyFor s.names source) s.segmentSizeKey (v.derivationFor source) x'.fields =
      sampleValue (v.keyFor s.names source) s.segmentSizeKey (v.derivationFor source) x.fields := by
  unfold sampleValue
  rw [h.own]
  -- the segment size is looked at only where the samples are counted in segments
  by_cases hd : v.derivationFor source = .segmentScaled
  · rw [h.size hd]
  · cases x.fields.get? (v.keyFor s.names source) with
    | none => rfl
    | some a =>
      cases hderivation : v.derivationFor source with
      | identity | runningSum => rfl
      | segmentScaled => exact absurd hderivation hd

theorem sampleValues_eq_of_same {value : NumericFields → Except String Float}
    {xs xs' : List Sample} (h : List.Forall₂ (fun x x' => value x'.fields = value x.fields) xs xs')
    (first : ℕ) : sampleValues value first xs' = sampleValues value first xs := by
  induction h generalizing first with
  | nil => rfl
  | cons hx _ ih =>
    rw [sampleValues, sampleValues, hx]
    cases value _ with
    | error key => rfl
    | ok y => exact congrArg (Except.map (y :: ·)) (ih (first + 1))

theorem times_eq_of_same {xs xs' : List Sample}
    (h : List.Forall₂ (Sample.SameFor s v source) xs xs') :
    xs'.map (·.time) = xs.map (·.time) := by
  induction h with
  | nil => rfl
  | cons hx _ ih => rw [List.map_cons, List.map_cons, hx.time, ih]

theorem Series.resolve_eq_of_same {a a' : Series} (h : a.SameFor s v a') :
    a'.resolve s v = a.resolve s v := by
  have hvalues := sampleValues_eq_of_same (h.samples.imp fun _ _ => sampleValue_eq_of_same) 0
  unfold Series.resolve
  simp only [h.source, hvalues, times_eq_of_same h.samples]

/-- **What a variable does not look at does not matter** to it. -/
theorem resolve_eq_of_same (h : set.SameFor s v set') : resolve s set' v = resolve s set v := by
  have hseries : (fun source => (set'.get source).resolve s v) =
      fun source => (set.get source).resolve s v :=
    funext fun source => Series.resolve_eq_of_same (h source)
  unfold resolve SeriesSet.toList
  rw [List.mapM_map, List.mapM_map]
  exact congrArg (fun f => (Source.all.mapM f).map (ResolvedVariable.mk v)) hseries

/-! ## 2. One variable after the other -/

namespace Resolution

/-- Nothing is resolved yet, and nothing passed over. -/
def empty : Resolution := ⟨[], []⟩

/-- What becomes of one variable. -/
def ofOutcome : Except Unresolved ResolvedVariable → Resolution
  | .ok r => ⟨[r], []⟩
  | .error u => ⟨[], [u]⟩

/-- One after the other: what is resolved in both, and apart from it what is passed over. -/
instance : Append Resolution :=
  ⟨fun a b => ⟨a.resolved ++ b.resolved, a.skipped ++ b.skipped⟩⟩

theorem empty_append (a : Resolution) : empty ++ a = a := rfl

theorem append_empty (a : Resolution) : a ++ empty = a :=
  congrArg₂ Resolution.mk (List.append_nil _) (List.append_nil _)

theorem append_assoc (a b c : Resolution) : a ++ b ++ c = a ++ (b ++ c) :=
  congrArg₂ Resolution.mk (List.append_assoc _ _ _) (List.append_assoc _ _ _)

end Resolution

open Resolution

/-- The step of a loop over variables: a variable is added at the end of what was resolved
so far, or of what was passed over. -/
def accumulate (s : Settings) (set : SeriesSet) (so : Resolution) (v : Variable) : Resolution :=
  match resolve s set v with
  | .ok r => { so with resolved := so.resolved ++ [r] }
  | .error u => { so with skipped := so.skipped ++ [u] }

/-- **A step adds** what becomes of the variable alone. -/
theorem accumulate_eq (so : Resolution) :
    accumulate s set so v = so ++ ofOutcome (resolve s set v) := by
  unfold accumulate
  cases resolve s set v with
  | ok r => exact congrArg (Resolution.mk _) (List.append_nil _).symm
  | error u => exact congrArg (Resolution.mk · _) (List.append_nil _).symm

theorem resolveAll_cons (vs : List Variable) :
    resolveAll s set (v :: vs) = ofOutcome (resolve s set v) ++ resolveAll s set vs := by
  unfold resolveAll
  rw [List.map_cons]
  cases resolve s set v <;> rfl

/-- **A loop adds** what becomes of its variables, whatever was there before. -/
theorem foldl_accumulate (so : Resolution) (vs : List Variable) :
    vs.foldl (accumulate s set) so = so ++ resolveAll s set vs := by
  induction vs generalizing so with
  | nil => exact (append_empty so).symm
  | cons v vs ih => rw [List.foldl_cons, ih, accumulate_eq, append_assoc, resolveAll_cons]

/-- The variables are resolved by such a loop. -/
theorem resolveAll_eq_foldl (vs : List Variable) :
    resolveAll s set vs = vs.foldl (accumulate s set) empty := by
  rw [foldl_accumulate, empty_append]

theorem resolveAll_append (vs ws : List Variable) :
    resolveAll s set (vs ++ ws) = resolveAll s set vs ++ resolveAll s set ws := by
  rw [resolveAll_eq_foldl, List.foldl_append, ← resolveAll_eq_foldl, foldl_accumulate]

/-! ## 3. Independence -/

/-- **Variables are independent.** What becomes of one is decided by what it looks at.

* Two sets that are the same to a variable resolve it alike, or leave it unresolved for the
  same reason.
* Two lists of variables one after the other give what each of them gives.
* So a variable has its own result between those of the variables before and after it,
  whatever these are and whatever becomes of them. -/
theorem variables_independent (s : Settings) (set : SeriesSet) :
    (∀ (v : Variable) (set' : SeriesSet), set.SameFor s v set' →
      resolve s set' v = resolve s set v) ∧
    (∀ vs ws : List Variable,
      resolveAll s set (vs ++ ws) = resolveAll s set vs ++ resolveAll s set ws) ∧
    ∀ (vs ws : List Variable) (v : Variable), resolveAll s set (vs ++ v :: ws) =
      resolveAll s set vs ++ ofOutcome (resolve s set v) ++ resolveAll s set ws := by
  refine ⟨fun v set' h => resolve_eq_of_same h, resolveAll_append, fun vs ws v => ?_⟩
  rw [resolveAll_append, resolveAll_cons, append_assoc]

/-- A set with one sample of each source. -/
def setHolding (kernel probe generator : List (String × ℕ)) : SeriesSet :=
  let series (source : Source) (fields : List (String × ℕ)) : Series :=
    ⟨source, [⟨0.0, Keyed.ofList (fields.map fun field => (field.1, field.2.toUInt64.toFloat))⟩]⟩
  ⟨⟨0, 0, by decide⟩, .kernelSocket, series .kernelSocket kernel, series .inKernelProbe probe,
    series .trafficGenerator generator⟩

/-- A window needs the segment size of the kernel's sources but not that of the generator,
and no round trip time. -/
theorem variables_independent_window :
    let window := [("sndCwnd", 10), ("sndMss", 1448)]
    let set := setHolding window window [("snd_cwnd", 14480)]
    let set' := setHolding (("rtt", 25) :: window) window [("snd_cwnd", 14480), ("sndMss", 536)]
    set.SameFor {} Variable.standard[2] set' ∧
      resolve {} set' Variable.standard[2] = resolve {} set Variable.standard[2] ∧
      resolveAll {} set (Variable.standard.take 2 ++ Variable.standard.drop 2) =
        resolveAll {} set (Variable.standard.take 2) ++
          resolveAll {} set (Variable.standard.drop 2) := by
  intro window set set'
  have hsame : set.SameFor {} Variable.standard[2] set' := by
    intro source
    cases source with
    | kernelSocket => exact ⟨rfl, .cons ⟨rfl, by decide, fun _ => by decide⟩ .nil⟩
    | inKernelProbe => exact ⟨rfl, .cons ⟨rfl, by decide, fun _ => by decide⟩ .nil⟩
    | trafficGenerator => exact ⟨rfl, .cons ⟨rfl, by decide, fun h => by cases h⟩ .nil⟩
  obtain ⟨hresolve, happend, -⟩ := variables_independent {} set
  exact ⟨hsame, hresolve _ _ hsame, happend _ _⟩

end FlowTriad
