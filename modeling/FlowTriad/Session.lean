/-
`Session.lean` -- a whole run of the program, as a function.

A run starts from arguments and the state of the file system, and ends in an exit
status, a text for the standard output, perhaps a failure, and a new state of the
file system. Its stages are these.

1. The configuration is loaded.
2. The captures are read and compared. Until here nothing has been written.
3. The directory of the output files is made.
4. The variables are drawn and exported, one after the other.
5. The summary is printed. It is the only thing that is, so a run that fails prints
   nothing.

A failure in a stage ends the run and leaves in place what has been written before,
and of a chart whose drawing breaks off what has been drawn of it.
-/
import FlowTriad.CommandLine
import FlowTriad.Files
import FlowTriad.Output.Csv
import FlowTriad.Output.Summary
import FlowTriad.Settings.Loading

set_option autoImplicit false

namespace FlowTriad

/-! ## 1. Failures -/

/-- What a run is doing. -/
inductive Activity where
  | loadingSettings (path : String)
  | reconciling
  | makingDirectory (path : String)
  | drawing (name : String)
  | exporting (name : String)
  deriving DecidableEq, Repr

/-- That it failed, in words. -/
def Activity.failed : Activity → String
  | .loadingSettings path => "Failed to load configuration " ++ path
  | .reconciling => "Failed to reconcile captures"
  | .makingDirectory path => "Failed to create output directory " ++ path
  | .drawing name => "Failed to render '" ++ name ++ "'"
  | .exporting name => "Failed to export '" ++ name ++ "'"

/-- Why an activity failed. -/
inductive Cause where
  | fault (f : Fault)
  | file (f : FileFault)
  deriving DecidableEq

/-- The causes in words, each the cause of the one before. -/
def Cause.messages (wording : Detail → String) : Cause → List String
  | .fault (.unreadable path e) => [(Fault.unreadable path e).describe wording, e.message]
  | .fault f => [f.describe wording]
  | .file e => [e.message]

/-- The end of a run that could not do what it was doing. -/
structure Failure where
  activity : Activity
  cause : Cause
  deriving DecidableEq

namespace Failure

/-- A text with every line but the first moved to the right. -/
def hang (margin : Nat) (s : String) : String :=
  String.ofList (s.toList.flatMap fun c => if c = '\n' then c :: List.replicate margin ' ' else [c])

/-- The lines of a list of causes, which are numbered if there are several. -/
def causeLines (messages : List String) : List String :=
  match messages with
  | [m] => ["    " ++ hang 4 m]
  | ms => ms.zipIdx.map fun (m, i) => Text.alignRight 5 (toString i) ++ ": " ++ hang 7 m

/-- The failure in words. -/
def describe (wording : Detail → String) (f : Failure) : String :=
  "Error: " ++ f.activity.failed ++ "\n\nCaused by:\n" ++
    "\n".intercalate (causeLines (f.cause.messages wording))

/-- The exit status. A run that broke off has one of its own. -/
def status (f : Failure) : Nat :=
  match f.cause with
  | .fault f => if f.breaksOff then 101 else 1
  | .file _ => 1

end Failure

/-! ## 2. Reading -/

/-- The text of a file that is needed. -/
def Files.require (fs : Files) (path : String) : Except Fault String :=
  (fs.readText path).mapError (.unreadable path)

/-- The settings of a configuration file, or the usual ones. -/
def loadSettings (fs : Files) : Option String → Except Fault Settings
  | none => .ok {}
  | some path => do Settings.load (← fs.require path)

/-- The paths of the three captures. -/
structure CapturePaths where
  kernel : String
  probe : String
  generator : String
  deriving DecidableEq, Repr

/-- The captures in files. A file that serves both sources is read once, and known by
one name however its path is written. -/
def readCaptures (fs : Files) (p : CapturePaths) : Except Fault Captures := do
  let kernel ← fs.require p.kernel
  let probe ← if Path.same p.probe p.kernel then pure kernel else fs.require p.probe
  let generator ← fs.require p.generator
  return ⟨⟨p.kernel, kernel⟩, ⟨p.probe, probe⟩, ⟨p.generator, generator⟩⟩

/-- Compares captures in files. -/
def compareFiles (fs : Files) (s : Settings) (p : CapturePaths) : Except Fault Comparison := do
  reconcile s (← readCaptures fs p)

/-! ## 3. Writing

A chart that cannot be put into its file counts as one that cannot be drawn, and why
is not told; for a table of points the system's answer is kept. A chart without a
scale breaks the run off, but only after what could be drawn of it has been put into
its file, if that can be done. -/

/-- Makes the directory of the output files. -/
def makeOutputDirectory (o : Options) (fs : Files) : Files × Option Failure :=
  match Path.outputDirectory? o.stem with
  | none => (fs, none)
  | some dir =>
      let (made, e) := fs.makeDirectories dir
      (made, e.map fun e => ⟨.makingDirectory dir, .file e⟩)

/-- The state after a chart has been drawn into a file, and the fault if it was not
drawn to its end. -/
def Files.writeChart (fs : Files) (path : String) (c : Chart) : Files × Option Fault :=
  match fs.write path (.chart c), c.hasScale with
  | .ok drawn, true => (drawn, none)
  | .error _, true => (fs, some (.output path .drawing))
  | .ok drawn, false => (drawn, some (.output path .noScale))
  | .error _, false => (fs, some (.output path .noScale))

/-- The state after the points of a variable have been written into a file. -/
def Files.writeTable (fs : Files) (path : String) (v : ResolvedVariable) : Except Fault Files :=
  (fs.write path (.text (Csv.text v))).mapError fun e => .output path (.file e)

/-- Draws a variable and, if that is asked for, exports its points. -/
def deliver (o : Options) (fs : Files) (v : ResolvedVariable) : Files × Except Failure Rendered :=
  let name := v.description.name
  let chart := Path.chartPath o.stem name
  let table := Path.tablePath o.stem name
  match fs.writeChart chart (Chart.of o.algorithm v) with
  | (drawn, some f) => (drawn, .error ⟨.drawing name, .fault f⟩)
  | (drawn, none) =>
      if o.tables then
        match drawn.writeTable table v with
        | .error f => (drawn, .error ⟨.exporting name, .fault f⟩)
        | .ok written => (written, .ok ⟨name, chart, some table⟩)
      else (drawn, .ok ⟨name, chart, none⟩)

/-- Draws and exports variables one after the other, and adds them to a summary. -/
def deliverAll (o : Options) (fs : Files) (summary : Summary) :
    List ResolvedVariable → Files × Except Failure Summary
  | [] => (fs, .ok summary)
  | v :: vs =>
      match deliver o fs v with
      | (fs, .error f) => (fs, .error f)
      | (fs, .ok r) => deliverAll o fs (summary.add r) vs

/-- The text that a summary is printed as. -/
def Summary.printed (s : Summary) : SummaryFormat → String
  | .text => s.text
  | .json => s.document ++ "\n"

/-! ## 4. A run -/

/-- How a run ends. -/
structure Outcome where
  status : Nat
  /-- What it has printed. -/
  output : String
  failure : Option Failure
  files : Files
  deriving DecidableEq

/-- The end of a run that has failed. -/
def Outcome.failed (fs : Files) (f : Failure) : Outcome :=
  ⟨f.status, "", some f, fs⟩

/-- The run with options that have been read. -/
def runWith (o : Options) (fs : Files) : Outcome :=
  match loadSettings fs o.settingsPath with
  | .error f => .failed fs ⟨.loadingSettings (o.settingsPath.getD ""), .fault f⟩
  | .ok settings =>
      match compareFiles fs settings ⟨o.kernelPath, o.probePath, o.generatorPath⟩ with
      | .error f => .failed fs ⟨.reconciling, .fault f⟩
      | .ok comparison =>
          match makeOutputDirectory o fs with
          | (made, some f) => .failed made f
          | (made, none) =>
              match deliverAll o made (Summary.of comparison) comparison.resolution.resolved with
              | (written, .error f) => .failed written f
              | (written, .ok summary) => ⟨0, summary.printed o.format, none, written⟩

/-- The text that explains the program. -/
def helpText : String :=
  "\n".intercalate
    ["Cross-validate netlink, sk_ops and iperf3 TCP measurements of one connection",
     "",
     "Usage: " ++ programName ++ " [OPTIONS]",
     "",
     "Options:",
     "      --firefly-path <PATH>  Line-delimited firefly records carrying netlink measurements " ++
       "[default: fireflies.jsonl]",
     "      --skops-path <PATH>    Line-delimited records carrying sk_ops measurements " ++
       "(defaults to --firefly-path)",
     "      --iperf3-path <PATH>   iperf3 JSON report [default: iperf3.json]",
     "      --prefix <PREFIX>      Prefix of every output file; the variable name and extension " ++
       "are appended [default: plots/def-]",
     "      --cong-alg <ALG>       Congestion algorithm appended to chart titles " ++
       "(e.g., bbr, cubic)",
     "      --config <FILE>        TOML file overriding keys, name mappings and variables",
     "      --csv                  Also write the plotted points of each variable as CSV",
     "      --format <FORMAT>      Summary format [default: text] [possible values: text, json]",
     "      --debug                Enable debug tracing output to stderr",
     "  -h, --help                 Print help",
     "  -V, --version              Print version",
     ""]

/-- The run that arguments ask for; a mistake in them has its own exit status. -/
def run (args : List String) (fs : Files) : Outcome :=
  match Invocation.ofArguments args with
  | .error _ => ⟨2, "", none, fs⟩
  | .ok .help => ⟨0, helpText, none, fs⟩
  | .ok .version => ⟨0, programName ++ " " ++ programVersion ++ "\n", none, fs⟩
  | .ok (.run o) => runWith o fs

end FlowTriad
