/-
`Variable.lean` -- the variables that are compared.

A variable is one quantity under one name, and the recipe by which each source's own
numbers become that quantity: the field to read, a derivation, and one divisor for
all sources. Adding a variable means adding such an entry, and nothing else.
-/
import FlowTriad.Source
import FlowTriad.Variable.NameTable

set_option autoImplicit false

namespace FlowTriad

/-- How a source's number becomes the quantity, before it is divided. -/
inductive Derivation where
  /-- It is the quantity. -/
  | identity
  /-- It counts segments, and is multiplied by the sample's own segment size. -/
  | segmentScaled
  /-- It is what one interval adds to the quantity, which is the sum so far. -/
  | runningSum
  deriving DecidableEq, Repr

/-- The name of a derivation in a configuration. -/
def Derivation.name : Derivation → String
  | identity => "identity"
  | segmentScaled => "segment_scaled"
  | runningSum => "running_sum"

/-- The derivation of a name. -/
def Derivation.ofName? (s : String) : Option Derivation :=
  [identity, segmentScaled, runningSum].find? (·.name == s)

/-- A quantity that is compared. -/
structure Variable where
  /-- The name of the quantity, which is also the field of the kernel's own sources. -/
  name : String
  title : String
  /-- The label of the value axis. -/
  axis : String
  /-- The divisor of all three series. -/
  scale : Float := 1.0
  kernelDerivation : Derivation := .identity
  generatorDerivation : Derivation := .identity
  /-- The fields of the sources where they are not the usual ones. -/
  kernelKey : Option String := none
  probeKey : Option String := none
  generatorKey : Option String := none
  deriving DecidableEq

namespace Variable

/-- The field that a source keeps the variable in. Without a key of its own it is the
variable's name for the kernel's sources, and what the name table makes of that name
for the generator. -/
def keyFor (v : Variable) (names : NameTable) (s : Source) : String :=
  let explicit :=
    match s with
    | .kernelSocket => v.kernelKey
    | .inKernelProbe => v.probeKey
    | .trafficGenerator => v.generatorKey
  match explicit with
  | some key => key
  | none => if s.isKernelNative then v.name else names.resolve v.name

/-- The derivation of a source's samples. -/
def derivationFor (v : Variable) (s : Source) : Derivation :=
  if s.isKernelNative then v.kernelDerivation else v.generatorDerivation

/-- The number of bytes in a mebibyte. -/
def mebibyte : Float := 1048576.0

/-- The five variables that every source tracks in a usual capture. -/
def standard : List Variable :=
  [{ name := "rtt", title := "RTT", axis := "RTT [us]" },
   { name := "rttVar", title := "RTT Variance", axis := "RTT Var [us]" },
   { name := "sndCwnd", title := "Sender's Congestion Window", axis := "Congestion Window [MiB]",
     scale := mebibyte, kernelDerivation := .segmentScaled },
   { name := "pMtu", title := "Path MTU", axis := "PMTU [bytes]" },
   { name := "bytesSent", title := "Sent Bytes", axis := "Data [MiB]", scale := mebibyte,
     generatorDerivation := .runningSum }]

end Variable

end FlowTriad
