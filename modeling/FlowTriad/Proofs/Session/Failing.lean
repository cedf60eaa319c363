/-
`Proofs/Session/Failing.lean` -- what a run that fails leaves behind.

A run prints at its end, and writes only when there is something to write. So a run that
fails prints nothing, and what it leaves depends on how far it came. Until the captures are
compared it only reads: it leaves the files as they were. After that it leaves the
directories that it has made for its files, and the files of the variables that came before
the one it failed at (`LeftBehind`).

Two faults are not failures in this sense, because the run does not get to report them: an
instant outside the calendar, and a chart without a scale.
-/
import FlowTriad.Proofs.Comparison.BreakingOff
import FlowTriad.Proofs.Session.Delivery

set_option autoImplicit false

namespace FlowTriad

variable {o : Options} {fs made : Files} {s : Settings} {e : Fault} {f : Failure}

/-! ## 1. Failing to read -/

/-- The directory of the files is the only thing that is made before they are written. -/
theorem directoriesAdded_makeOutputDirectory (o : Options) (fs : Files) :
    fs.DirectoriesAdded (makeOutputDirectory o fs).1 := by
  unfold makeOutputDirectory
  split
  · exact .refl fs
  · exact Files.directoriesAdded_makeDirectories fs _

/-- What a run leaves that fails after its captures have been compared: directories for its
files, if it cannot make all of them, or all of them and the files that were written until
the delivery of the resolved variables stopped. -/
inductive LeftBehind (o : Options) (fs : Files) (vs : List ResolvedVariable) :
    Failure → Files → Prop
  | directories {dir : String} {cause : FileFault} {made : Files}
      (hdir : Path.outputDirectory? o.stem = some dir) (hmade : fs.DirectoriesAdded made) :
      LeftBehind o fs vs ⟨.makingDirectory dir, .file cause⟩ made
  | files {made fs' : Files} {f : Failure} (hmade : fs.DirectoriesAdded made)
      (hstopped : StoppedAt o made vs f fs') : LeftBehind o fs vs f fs'

theorem LeftBehind.status {vs : List ResolvedVariable} {fs' : Files}
    (h : LeftBehind o fs vs f fs') : f.status = 1 := by
  cases h with
  | directories => rfl
  | files _ hstopped => cases hstopped <;> rfl

/-! ## 3. Failing -/

theorem run_of_arguments {args : List String} (h : Invocation.ofArguments args = .ok (.run o))
    (fs : Files) : run args fs = runWith o fs := by
  unfold run
  rw [h]

/-- The captures that a run is asked to compare. -/
def Options.captures (o : Options) : CapturePaths :=
  ⟨o.kernelPath, o.probePath, o.generatorPath⟩

theorem runWith_of_unloaded (hload : loadSettings fs o.settingsPath = .error e) :
    runWith o fs = .failed fs ⟨.loadingSettings (o.settingsPath.getD ""), .fault e⟩ := by
  unfold runWith
  rw [hload]

theorem runWith_of_refused (hload : loadSettings fs o.settingsPath = .ok s)
    (hcompare : compareFiles fs s o.captures = .error e) :
    runWith o fs = .failed fs ⟨.reconciling, .fault e⟩ := by
  unfold Options.captures at hcompare
  unfold runWith
  simp only [hload, hcompare]

/-- A record of both of the kernel's sources with the same numbers. -/
def recordMeasuring (numbers : String) : String :=
  "\x7b\"flow-lifecycle\":\x7b\"state\":\"ongoing\",\"current-time\":\"2024-11-02T16:07:02.5Z\"\x7d" ++
    ",\"netlink\":\x7b\"tcpInfo\":\x7b" ++ numbers ++ "\x7d\x7d" ++
    ",\"skOps\":\x7b\"tcpInfo\":\x7b" ++ numbers ++ "\x7d\x7d\x7d"

/-- A report of one interval with some numbers. -/
def reportMeasuring (numbers : String) : String :=
  "\x7b\"start\":\x7b\"timestamp\":\x7b\"time\":\"Sat, 02 Nov 2024 16:07:01 GMT\"\x7d\x7d," ++
    "\"intervals\":[\x7b\"streams\":[\x7b\"seconds\":1," ++ numbers ++ "\x7d]\x7d]\x7d"

/-- Captures that have two variables in common. -/
def twoVariables : List (Location × Entry) :=
  [(⟨.working 0, ["f".toList]⟩, .file (.text (recordMeasuring "\"rtt\":25,\"rttVar\":4"))),
    (⟨.working 0, ["g".toList]⟩, .file (.text (reportMeasuring "\"rtt\":27,\"rttvar\":5")))]

end FlowTriad
