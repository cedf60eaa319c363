/-
`Variable/Resolution.lean` -- a variable's points, from three series.

A variable is resolved for a source by reading one field of every sample (and, where
windows are counted in segments, a second one), applying the derivation, and
dividing. A source whose samples do not all have the fields leaves the variable
unresolved. That is no fault: the variable is passed over, and it is recorded which
field was missing where.
-/
import FlowTriad.Alignment
import FlowTriad.Settings

set_option autoImplicit false

namespace FlowTriad

/-- A point of a chart: the time in seconds, and the value. -/
abbrev Point := Float × Float

/-- The points of one source. -/
structure PointSeries where
  source : Source
  points : List Point
  deriving DecidableEq

/-- A variable with the points of its sources. -/
structure ResolvedVariable where
  description : Variable
  series : List PointSeries
  deriving DecidableEq

/-- A variable that a source lacks. -/
structure Unresolved where
  name : String
  source : Source
  /-- The field that was looked for. -/
  key : String
  /-- The position of the first sample without it. -/
  sample : Nat
  deriving DecidableEq, Repr

/-- What is lacking, in words. -/
def Unresolved.message (u : Unresolved) : String :=
  "variable '" ++ u.name ++ "' unresolved for " ++ u.source.name ++ ": key '" ++ u.key ++
    "' missing from sample " ++ toString u.sample

/-! ## 1. One source -/

/-- A window counted in segments, in bytes. -/
def segmentScaled (segments size : Float) : Float :=
  segments * size

/-- The running totals of per-interval amounts, from zero. -/
def runningTotal (amounts : List Float) : List Float :=
  TimedSeries.totalsFrom 0.0 amounts

/-- A sample's number for a variable, or the key that the sample lacks. The variable's
own key is looked for first. -/
def sampleValue (key segmentKey : String) (d : Derivation) (fields : NumericFields) :
    Except String Float :=
  match fields.get? key with
  | none => .error key
  | some x =>
      match d with
      | .segmentScaled =>
          match fields.get? segmentKey with
          | none => .error segmentKey
          | some size => .ok (segmentScaled x size)
      | _ => .ok x

/-- The numbers of a list of samples, of which `first` is the position of the first; or
the position and the key of the first that is lacking. -/
def sampleValues (value : NumericFields → Except String Float) (first : Nat) :
    List Sample → Except (Nat × String) (List Float)
  | [] => .ok []
  | x :: xs =>
      match value x.fields with
      | .error key => .error (first, key)
      | .ok y => (sampleValues value (first + 1) xs).map (y :: ·)

/-- The points of a series for a variable. -/
def Series.resolve (s : Settings) (v : Variable) (series : Series) :
    Except Unresolved PointSeries :=
  let key := v.keyFor s.names series.source
  let derivation := v.derivationFor series.source
  match sampleValues (sampleValue key s.segmentSizeKey derivation) 0 series.samples with
  | .error (i, missing) => .error ⟨v.name, series.source, missing, i⟩
  | .ok raw =>
      let values := if derivation = .runningSum then runningTotal raw else raw
      let times := series.samples.map (·.time)
      .ok ⟨series.source, times.zip (values.map (· / v.scale))⟩

/-! ## 2. All sources, all variables -/

/-- A variable with the points of all sources, or what the first of them lacks. -/
def resolve (s : Settings) (set : SeriesSet) (v : Variable) : Except Unresolved ResolvedVariable :=
  (set.toList.mapM (Series.resolve s v)).map (⟨v, ·⟩)

/-- The variables that were resolved, and those that were not. -/
structure Resolution where
  resolved : List ResolvedVariable
  skipped : List Unresolved
  deriving DecidableEq

/-- Resolves each variable for itself. -/
def resolveAll (s : Settings) (set : SeriesSet) (vs : List Variable) : Resolution :=
  let results := vs.map (resolve s set)
  ⟨results.filterMap fun r => r.toOption,
   results.filterMap fun | .error u => some u | .ok _ => none⟩

/-! ## 3. Bounds -/

/-- The smallest and the largest of a number so far and another one. A number that is
none leaves the other; of two that compare equal the one so far stays. -/
def lesser (a b : Float) : Float :=
  if a.isNaN || b < a then b else a

@[inherit_doc lesser]
def greater (a b : Float) : Float :=
  if a.isNaN || a < b then b else a

/-- A closed range. -/
abbrev Range := Float × Float

/-- The range widened to a number. -/
def Range.widen (r : Range) (x : Float) : Range :=
  (lesser r.1 x, greater r.2 x)

/-- The ranges of times and values over all points of a variable. -/
def ResolvedVariable.bounds? (v : ResolvedVariable) : Option (Range × Range) :=
  match v.series.flatMap (·.points) with
  | [] => none
  | (t, x) :: ps =>
      some (ps.foldl (fun (ts, xs) (t, x) => (Range.widen ts t, Range.widen xs x)) ((t, t), (x, x)))

/-- The points of a source. -/
def ResolvedVariable.get? (v : ResolvedVariable) (s : Source) : Option PointSeries :=
  v.series.find? (·.source == s)

end FlowTriad
