/-
`Proofs/Timeline.lean` -- measurements and instants, one for one.

A record brings its instant along, so nothing can be lost in giving it one; that is in
`Proofs/Comparison/Stages.lean`. The intervals of a report get theirs from a list that is
made from their durations alone, and are paired with it afterwards. A pairing stops at
the end of the shorter list, so what matters is that neither is shorter: there is one
running total for each duration, and one instant for each total.
-/
import FlowTriad.Proofs.Outcome
import FlowTriad.Timeline

set_option autoImplicit false

namespace FlowTriad.TimedSeries

theorem length_totalsFrom (total : Float) (xs : List Float) :
    (totalsFrom total xs).length = xs.length := by
  induction xs generalizing total with
  | nil => rfl
  | cons x xs ih => rw [totalsFrom, List.length_cons, List.length_cons, ih]

/-- A running total is the sum of a beginning of the list, from left to right. -/
theorem getElem?_totalsFrom {total : Float} {xs : List Float} {i : ℕ} (hi : i < xs.length) :
    (totalsFrom total xs)[i]? = some ((xs.take (i + 1)).foldl (· + ·) total) := by
  induction xs generalizing total i with
  | nil => cases hi
  | cons x xs ih =>
    rw [totalsFrom, List.take_succ_cons, List.foldl_cons]
    cases i with
    | zero => rfl
    | succ i => exact ih (Nat.lt_of_succ_lt_succ hi)

/-- The ends of intervals, each at the total of the durations up to it. -/
theorem intervalEnds?_eq_some {start : Instant} {durations : List Float} {ends : List Instant} :
    intervalEnds? start durations = some ends ↔
      List.Forall₂ (fun total t => start.add? (nanoseconds total) = some t)
        (totalsFrom 0.0 durations) ends :=
  mapM_eq_some

theorem length_intervalEnds? {start : Instant} {durations : List Float} {ends : List Instant}
    (h : intervalEnds? start durations = some ends) : ends.length = durations.length := by
  rw [← (intervalEnds?_eq_some.1 h).length_eq, length_totalsFrom]

/-- The samples of intervals that end at some instants. -/
def samplesEnding (ends : List Instant) (intervals : List Interval) : List TimedSample :=
  (ends.zip intervals).map fun (t, i) => ⟨t, i.fields⟩

/-- **A report makes a series** when it began at an instant, no duration is bad, and no
interval ends beyond the calendar. -/
theorem ofReport_eq_ok {origin : String} {r : Report} {t : TimedSeries} :
    ofReport origin r = .ok t ↔
      ∃ start ends, readReportTime r.startTime = .ok start ∧
        r.intervals.find? (!goodDuration ·.seconds) = none ∧
        intervalEnds? start (r.intervals.map (·.seconds)) = some ends ∧
        t = ⟨.trafficGenerator, samplesEnding ends r.intervals⟩ := by
  unfold ofReport
  cases hstart : readReportTime r.startTime with
  | error cause => simp
  | ok start =>
    cases hbad : r.intervals.find? (!goodDuration ·.seconds) with
    | some i => simp
    | none =>
      cases hends : intervalEnds? start (r.intervals.map (·.seconds)) with
      | none => simp [hends]
      | some ends =>
        simp only [hends, samplesEnding, Except.ok.injEq, exists_and_left, exists_eq_left',
          Option.some.injEq, true_and]
        exact eq_comm

/-- **Nothing is lost** between the intervals and the series: there are as many samples, in
the same order, with the same numbers. -/
theorem fields_of_ofReport {origin : String} {r : Report} {t : TimedSeries}
    (h : ofReport origin r = .ok t) :
    t.source = .trafficGenerator ∧ t.samples.map (·.fields) = r.intervals.map (·.fields) := by
  obtain ⟨start, ends, -, -, hends, rfl⟩ := ofReport_eq_ok.1 h
  have hlength : ends.length = r.intervals.length := by
    rw [length_intervalEnds? hends, List.length_map]
  refine ⟨rfl, ?_⟩
  calc (samplesEnding ends r.intervals).map (·.fields)
      = ((ends.zip r.intervals).map Prod.snd).map (·.fields) := by
        rw [samplesEnding, List.map_map, List.map_map]
        rfl
    _ = r.intervals.map (·.fields) := by rw [List.map_snd_zip (Nat.le_of_eq hlength.symm)]

end FlowTriad.TimedSeries
