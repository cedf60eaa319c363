/-
`Files.lean` -- the files that a run reads and writes.

The state of the file system is a value: a list of places with what is there. Every
directory above the working directory is there too, and nothing is known of what
else these hold. Reading and writing are functions on that value, so what a run did
can be read off the state it ends in.

The answers to failing accesses follow one rule for all of them: a path is walked
piece by piece, and every piece but the last must be a directory that exists. Names
and paths have a greatest length, which is looked at where it is met.
-/
import FlowTriad.Fault
import FlowTriad.Output.Chart
import FlowTriad.Path

set_option autoImplicit false

namespace FlowTriad

/-- Where a path starts to be walked. -/
inductive Anchor where
  /-- The root of all directories. -/
  | root
  /-- The working directory, or the one a number of levels above it. -/
  | working (up : Nat)
  deriving DecidableEq, Repr

/-- A place in the file system: where to start, and the names from there, the last one
first. -/
structure Location where
  anchor : Anchor
  names : List (List Char)
  deriving DecidableEq, Repr

namespace Location

/-- The place of a name in a directory. -/
def child (l : Location) (name : List Char) : Location :=
  { l with names := name :: l.names }

/-- The directory that holds a place; the root holds itself. -/
def parent (l : Location) : Location :=
  match l.names, l.anchor with
  | _ :: ns, _ => { l with names := ns }
  | [], .root => l
  | [], .working up => ⟨.working (up + 1), []⟩

/-- A path that leads to a place. -/
def path (l : Location) : String :=
  let names := "/".intercalate (l.names.reverse.map String.ofList)
  match l.anchor with
  | .root => "/" ++ names
  | .working up => String.join (List.replicate up "../") ++ names

end Location

/-- What a file holds. -/
inductive FileContent where
  | text (s : String)
  /-- Bytes that are not a text. -/
  | binary (bytes : List UInt8)
  /-- A chart that a run has drawn. -/
  | chart (c : Chart)
  deriving DecidableEq

/-- What a file of some bytes holds: a text, if they are one in UTF-8. -/
def FileContent.ofBytes (bytes : List UInt8) : FileContent :=
  match String.fromUTF8? ⟨bytes.toArray⟩ with
  | some s => .text s
  | none => .binary bytes

/-- What is at a place. -/
inductive Entry where
  | directory
  | file (content : FileContent)
  deriving DecidableEq

/-- The state of the file system. -/
structure Files where
  entries : List (Location × Entry)
  deriving DecidableEq

namespace Files

/-- What is at a place, if anything is. -/
def entry? (fs : Files) (l : Location) : Option Entry :=
  if l.names.isEmpty then some .directory else fs.entries.lookup l

/-- The state with an entry at a place, whatever was there before. -/
def put (fs : Files) (l : Location) (e : Entry) : Files :=
  ⟨fs.entries.filter (·.1 != l) ++ [(l, e)]⟩

/-- All files, with their paths. -/
def files (fs : Files) : List (String × FileContent) :=
  fs.entries.filterMap fun
    | (l, .file c) => some (l.path, c)
    | (_, .directory) => none

/-! ## 1. Walking a path -/

/-- The most bytes that a name in a path may have. -/
def maxNameLength : Nat := 255

/-- The most bytes that a path may have. -/
def maxPathLength : Nat := 4095

/-- Goes from a place along pieces of a path. Each step starts from a directory that
exists; where the last one leads, nothing need be. -/
def walk (fs : Files) (l : Location) : List (List Char) → Except FileFault Location
  | [] => .ok l
  | p :: ps =>
      match fs.entry? l with
      | none => .error .notFound
      | some (.file _) => .error .notDirectory
      | some .directory =>
          if Path.isIdle p then walk fs l ps
          else if maxNameLength < Text.byteLength p then .error .tooLong
          else if p = ['.', '.'] then walk fs l.parent ps
          else walk fs (l.child p) ps

/-- Where a path starts, and the pieces to walk. -/
def start (path : String) : Location × List (List Char) :=
  match path.toList with
  | '/' :: r => (⟨.root, []⟩, Path.pieces r)
  | cs => (⟨.working 0, []⟩, Path.pieces cs)

/-- Accepts a text that can be a path. -/
def checkPath (path : String) : Except FileFault Unit :=
  if path.isEmpty then .error .notFound
  else if '\x00' ∈ path.toList then .error .unexpectedEnd
  else if maxPathLength < Text.byteLength path.toList then .error .tooLong
  else .ok ()

/-- The place that a path leads to. -/
def locate (fs : Files) (path : String) : Except FileFault Location := do
  checkPath path
  let (l, ps) := start path
  fs.walk l ps

/-! ## 2. Accesses -/

/-- The text of a file. -/
def readText (fs : Files) (path : String) : Except FileFault String := do
  let l ← fs.locate path
  match fs.entry? l with
  | none => .error .notFound
  | some .directory => .error .isDirectory
  | some (.file (.text s)) => .ok s
  | some (.file (.chart c)) => .ok c.drawing
  | some (.file (.binary _)) => .error .notText

/-- Whether a path leads to a directory. -/
def isDirectory (fs : Files) (path : String) : Bool :=
  match fs.locate path with
  | .ok l => fs.entry? l == some .directory
  | .error _ => false

/-- The state after a file has been written. The directory it goes into must exist, and
it must not be one itself. -/
def write (fs : Files) (path : String) (c : FileContent) : Except FileFault Files := do
  let l ← fs.locate path
  if fs.entry? l = some .directory then .error .isDirectory else .ok (fs.put l (.file c))

/-- The state after a directory has been made, slashes at the end of its path aside. -/
def makeDirectory (fs : Files) (path : String) : Except FileFault Files := do
  checkPath path
  let (l, ps) := start path
  match ps.reverse.dropWhile List.isEmpty with
  | [] => .error .exists
  | name :: before => do
      let holder ← fs.walk l (before.reverse ++ [['.']])
      if Path.isIdle name || name == ['.', '.'] then .error .exists
      else if maxNameLength < Text.byteLength name then .error .tooLong
      else if (fs.entry? (holder.child name)).isSome then .error .exists
      else .ok (fs.put (holder.child name) .directory)

/-- Makes a directory and those above it, which follow in the list from the nearest on.
The state is what has been made, also if the last one fails. -/
def makeAll (fs : Files) : List String → Files × Option FileFault
  | [] => (fs, none)
  | p :: above =>
      match fs.makeDirectory p with
      | .ok made => (made, none)
      | .error .notFound =>
          match fs.makeAll above with
          | (made, some e) => (made, some e)
          | (made, none) =>
              match made.makeDirectory p with
              | .ok made => (made, none)
              | .error e => (made, if made.isDirectory p then none else some e)
      | .error e => (fs, if fs.isDirectory p then none else some e)

/-- Makes a directory and those above it that do not exist. -/
def makeDirectories (fs : Files) (path : String) : Files × Option FileFault :=
  fs.makeAll (path :: (Path.parents path).filter (!·.isEmpty))

end Files

end FlowTriad
