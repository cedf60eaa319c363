/-
`Capture/Lines.lean` -- captures with one record a line.

Every line is one of four things. A *blank* line is nothing. A *discarded* record
says that its connection is in another state than the one asked for, and nothing
else is looked at. A *kept* record is in that state, has a timestamp, and carries
what its reader extracts from it. Anything else is *offending*, and the first
offending line is what the whole capture is refused for.

A capture is read in one of two ways, which differ only in what is extracted from a
kept record. `readCapture` asks every kept record for the measurements of one
source. `readSharedCapture` reads a file that holds both line-delimited sources: a
kept record may carry the measurements of either, and must carry those of one.
-/
import FlowTriad.Capture.Record
import FlowTriad.Json.Reader
import FlowTriad.Settings

set_option autoImplicit false

namespace FlowTriad

/-! ## 1. One line -/

/-- A record in the state asked for. -/
structure KeptRecord where
  /-- Its timestamp, as the collector wrote it. -/
  stamp : String
  members : Json.Members

/-- What a line that is not offending holds, once `α` has been extracted from it. -/
inductive LineContent (α : Type) where
  | blank
  | discarded
  | kept (content : α)

/-- The kept record of a line that is not blank, if the line is not discarded. -/
def readRecord (s : Settings) (line : List Char) : Except Defect (Option KeptRecord) := do
  let document ← (Json.read line).mapError fun _ => .notJson
  let members ← document.asObject "record"
  let lifecycle ← members.object "flow-lifecycle" "flow-lifecycle"
  let state ← lifecycle.string "state" "flow-lifecycle.state"
  if state ≠ s.lifecycleState then return none
  let stamp ← lifecycle.string "current-time" "flow-lifecycle.current-time"
  return some ⟨stamp, members⟩

/-- What a line holds, with what is to be extracted from a kept record. -/
def readLine {α : Type} (s : Settings) (extract : KeptRecord → Except Defect α)
    (line : List Char) : Except Defect (LineContent α) :=
  if line.all Text.isBlank then .ok .blank
  else
    match readRecord s line with
    | .error d => .error d
    | .ok none => .ok .discarded
    | .ok (some r) => (extract r).map .kept

/-- The numbers that a kept record carries under one capture's key. -/
def measurements (s : Settings) (key : String) (r : KeptRecord) : Except Defect NumericFields := do
  let capture ← r.members.object key key
  let metrics ← capture.object s.metricsKey (key ++ "." ++ s.metricsKey)
  return NumericFields.ofMembers metrics

/-! ## 2. All lines -/

/-- A measurement and the line it was found in. -/
structure LineRecord where
  /-- The number of the line, counted from 1, blank and discarded lines included. -/
  line : Nat
  stamp : String
  fields : NumericFields
  deriving DecidableEq

/-- How many lines of a capture were records, and how many of those were discarded. -/
structure LineCount where
  lines : Nat
  discarded : Nat
  deriving DecidableEq, Repr

/-- What all lines hold: the contents of the kept records with the numbers of their
lines, and the count. `first` is the number of the first line. -/
def readLines {α : Type} (origin : String) (read : List Char → Except Defect (LineContent α))
    (first : Nat) : List (List Char) → Except Fault (List (Nat × α) × LineCount)
  | [] => .ok ([], ⟨0, 0⟩)
  | l :: ls => do
      let content ← located origin (.line first) (read l)
      let (rest, count) ← readLines origin read (first + 1) ls
      match content with
      | .blank => return (rest, count)
      | .discarded => return (rest, ⟨count.lines + 1, count.discarded + 1⟩)
      | .kept a => return ((first, a) :: rest, ⟨count.lines + 1, count.discarded⟩)

/-- The measurements of a source in its own capture. -/
def readCapture (s : Settings) (source : Source) (origin text : String) :
    Except Fault (List LineRecord × LineCount) :=
  match s.captureKey? source with
  | none => .error (.settings (.notLineDelimited source))
  | some key => do
      let extract (r : KeptRecord) : Except Defect (String × NumericFields) :=
        (measurements s key r).map (r.stamp, ·)
      let (kept, count) ← readLines origin (readLine s extract) 1 (Text.lines text.toList)
      return (kept.map fun (n, stamp, fields) => ⟨n, stamp, fields⟩, count)

/-! ## 3. A shared capture -/

/-- What a kept record of a shared capture carries. -/
structure SharedRecord where
  stamp : String
  kernel : Option NumericFields
  probe : Option NumericFields

/-- The measurements of either source that a kept record carries; a member that is
absent or null is not carried, and one of the two must be. -/
def sharedMeasurements (s : Settings) (r : KeptRecord) : Except Defect SharedRecord := do
  let carried (key : String) : Except Defect (Option NumericFields) :=
    if (r.members.present? key).isSome then (measurements s key r).map some else .ok none
  if (r.members.present? s.kernelKey).isNone && (r.members.present? s.probeKey).isNone then
    throw (.missing (s.kernelKey ++ " or " ++ s.probeKey))
  return ⟨r.stamp, ← carried s.kernelKey, ← carried s.probeKey⟩

/-- Both sources of a shared capture. -/
structure SharedCapture where
  kernel : List LineRecord
  probe : List LineRecord
  count : LineCount
  deriving DecidableEq

/-- The measurements of both sources in a capture that they share. -/
def readSharedCapture (s : Settings) (origin text : String) : Except Fault SharedCapture := do
  let (kept, count) ←
    readLines origin (readLine s (sharedMeasurements s)) 1 (Text.lines text.toList)
  let of (side : SharedRecord → Option NumericFields) : List LineRecord :=
    kept.filterMap fun (n, r) => (side r).map fun fields => ⟨n, r.stamp, fields⟩
  return ⟨of (·.kernel), of (·.probe), count⟩

end FlowTriad
