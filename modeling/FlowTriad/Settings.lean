/-
`Settings.lean` -- what a run can be told.

The settings name the members that the captures keep their measurements under, and
list the variables to compare. The defaults fit captures as they are usually made,
so a run needs no settings at all.
-/
import FlowTriad.Fault
import FlowTriad.Variable

set_option autoImplicit false

namespace FlowTriad

/-- The settings of a run. -/
structure Settings where
  /-- The lifecycle state whose records are kept. -/
  lifecycleState : String := "ongoing"
  /-- The member of a record that holds the kernel's measurements. -/
  kernelKey : String := "netlink"
  /-- The member of a record that holds the probe's measurements. -/
  probeKey : String := "skOps"
  /-- The member of a capture that holds its numbers. -/
  metricsKey : String := "tcpInfo"
  /-- Which of the generator's streams is compared. -/
  generatorStream : Nat := 0
  /-- The field that holds a sample's own segment size. -/
  segmentSizeKey : String := "sndMss"
  /-- The generator's names for variables. -/
  names : NameTable := NameTable.standard
  /-- The variables to compare, in order. -/
  compared : List Variable := Variable.standard
  deriving DecidableEq

namespace Settings

instance : Inhabited Settings := ⟨{}⟩

/-- The member of a record that holds a source's measurements; the generator does not
report in records. -/
def captureKey? (s : Settings) : Source → Option String
  | .kernelSocket => some s.kernelKey
  | .inKernelProbe => some s.probeKey
  | .trafficGenerator => none

/-- The settings that must not be empty, by the names a configuration gives them. -/
def keys (s : Settings) : List (String × String) :=
  [("lifecycle_state", s.lifecycleState), ("kernel_capture_key", s.kernelKey),
   ("probe_capture_key", s.probeKey), ("metrics_key", s.metricsKey),
   ("segment_size_key", s.segmentSizeKey)]

/-- Whether a number can divide measurements: finite and greater than zero. -/
def goodScale (x : Float) : Bool :=
  Decimal.isFinite x && 0.0 < x

/-- The first defect of a list of variables, of which those in `seen` came before. Of
one variable, a missing name counts before a repeated one, and that before a bad
divisor. -/
def variableDefect? (seen : List String) : List Variable → Option SettingsDefect
  | [] => none
  | v :: vs =>
      if v.name.isEmpty then some .emptyName
      else if v.name ∈ seen then some (.repeated v.name)
      else if !goodScale v.scale then some (.badScale v.name v.scale)
      else variableDefect? (v.name :: seen) vs

/-- The first defect of the settings: an empty key, then no variables, then the first
defective variable. -/
def defect? (s : Settings) : Option SettingsDefect :=
  match s.keys.find? (·.2.isEmpty) with
  | some (setting, _) => some (.emptyKey setting)
  | none => if s.compared.isEmpty then some .noVariables else variableDefect? [] s.compared

/-- Accepts settings without a defect. -/
def check (s : Settings) : Except Fault Unit :=
  match s.defect? with
  | some d => .error (.settings d)
  | none => .ok ()

end Settings

end FlowTriad
