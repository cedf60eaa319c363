/-
`Source.lean` -- the three sources of measurements.

One connection is observed from three places: through the kernel's socket
interface, by a probe inside the kernel, and by the tool that generates the
traffic. Everything that is kept per source is listed in the order of `Source.all`.
-/

set_option autoImplicit false

namespace FlowTriad

/-- Where measurements come from. -/
inductive Source where
  /-- The kernel's state of the socket. -/
  | kernelSocket
  /-- A probe that runs inside the kernel. -/
  | inKernelProbe
  /-- The interval reports of the traffic generator. -/
  | trafficGenerator
  deriving DecidableEq, Repr

namespace Source

/-- All sources, in the order in which they are kept, exported and drawn. -/
def all : List Source := [kernelSocket, inKernelProbe, trafficGenerator]

/-- The name of the source's series. -/
def name : Source → String
  | kernelSocket => "kernelSocket"
  | inKernelProbe => "inKernelProbe"
  | trafficGenerator => "trafficGenerator"

/-- The short label of the source in legends and exports. -/
def label : Source → String
  | kernelSocket => "netlink"
  | inKernelProbe => "skops"
  | trafficGenerator => "iperf3"

/-- Whether the source counts as the kernel does: windows in segments, and totals that
grow. The generator reports bytes, and each interval for itself. -/
def isKernelNative : Source → Bool
  | trafficGenerator => false
  | _ => true

/-- The source of a series name. -/
def ofName? (s : String) : Option Source :=
  all.find? (·.name == s)

end Source

end FlowTriad
