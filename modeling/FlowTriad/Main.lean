/-
`Main.lean` -- the program.

What a run does is the function `run` on the state of the file system. Here that
state is looked up, as far as the run can touch it, and what the run has changed in
it is written back.
-/
import FlowTriad.Session

set_option autoImplicit false

namespace FlowTriad.Main

/-- What is at a path, if anything is. -/
def look (path : String) : IO (Option Entry) := do
  try
    let bytes ← IO.FS.readBinFile path
    return some (.file (.ofBytes bytes.toList))
  catch
    | .noFileOrDirectory .. => return none
    | _ => return some .directory

/-- The state enlarged by what is at a path. -/
def observe (fs : Files) (path : String) : IO Files := do
  match fs.locate path with
  | .error _ => return fs
  | .ok l =>
      if (fs.entry? l).isSome then return fs
      match ← look path with
      | none => return fs
      | some e => return fs.put l e

/-- The state enlarged by what is at paths and in the directories above them. -/
def observeAll (fs : Files) (paths : List String) : IO Files :=
  (paths.flatMap fun p => ((Path.parents p).filter (!·.isEmpty)).reverse ++ [p]).foldlM observe fs

/-- The files that a run reads. -/
def inputPaths (o : Options) : List String :=
  o.settingsPath.toList ++ [o.kernelPath, o.probePath, o.generatorPath]

/-- The files that a run writes, as far as its settings are known, and their directory. -/
def outputPaths (o : Options) (s : Settings) : List String :=
  (Path.outputDirectory? o.stem).toList ++
    s.compared.flatMap fun v => [Path.chartPath o.stem v.name, Path.tablePath o.stem v.name]

/-- The state as far as a run can touch it. -/
def observeFor (o : Options) : IO Files := do
  let fs ← observeAll ⟨[]⟩ (inputPaths o)
  match loadSettings fs o.settingsPath with
  | .ok s => observeAll fs (outputPaths o s)
  | .error _ => return fs

/-- Makes what is in one state and not in another. -/
def realize (old new : Files) : IO Unit := do
  for (l, e) in new.entries do
    if e == .directory && old.entry? l != some .directory then IO.FS.createDirAll l.path
  for (path, content) in new.files.filter (!old.files.contains ·) do
    match content with
    | .text s => IO.FS.writeFile path s
    | .chart c => IO.FS.writeFile path c.drawing
    | .binary bytes => IO.FS.writeBinFile path ⟨bytes.toArray⟩

end FlowTriad.Main

open FlowTriad in
/-- Runs the program with its arguments, and ends with the run's exit status. -/
def main (args : List String) : IO UInt32 := do
  let old ← match Invocation.ofArguments args with
    | .ok (.run o) => Main.observeFor o
    | .ok _ => pure ⟨[]⟩
    | .error fault => do
        IO.eprintln ("error: " ++ fault.message)
        pure ⟨[]⟩
  let outcome := FlowTriad.run args old
  Main.realize old outcome.files
  IO.print outcome.output
  if let some f := outcome.failure then
    IO.eprintln (f.describe Detail.message)
  return outcome.status.toUInt32
