/-
`Path.lean` -- paths of files, as text and as components.

A path is a text. The system walks its pieces between the slashes one by one;
comparing two paths, and finding the directory that holds one, goes by components,
which leave out empty pieces and single dots, except a dot that begins the path. So
`a//b`, `a/./b` and `a/b/` are the same path as `a/b`, but `./a` is not the same as
`a`.
-/

set_option autoImplicit false

namespace FlowTriad.Path

/-! ## 1. Pieces -/

/-- The pieces of a text between its slashes. -/
def pieces : List Char → List (List Char)
  | [] => [[]]
  | '/' :: r => [] :: pieces r
  | c :: r =>
      match pieces r with
      | [] => [[c]]
      | p :: ps => (c :: p) :: ps

/-- The text of pieces with slashes between them. -/
def joined : List (List Char) → List Char
  | [] => []
  | [p] => p
  | p :: ps => p ++ '/' :: joined ps

/-- Whether a piece is no component: it is empty, or a single dot. -/
def isIdle (piece : List Char) : Bool :=
  piece == [] || piece == ['.']

/-! ## 2. Components -/

/-- A component of a path. -/
inductive Component where
  /-- The root of all directories. -/
  | root
  /-- The working directory, where a path says so at its beginning. -/
  | current
  /-- The directory that holds the one before. -/
  | parent
  | name (s : List Char)
  deriving DecidableEq, Repr

/-- The beginning of a path that stands apart from its other pieces, and the rest: a
slash, or a dot that is a piece of its own. -/
def splitAnchor : List Char → List Char × List Char
  | '/' :: r => (['/'], r)
  | ['.'] => (['.'], [])
  | '.' :: '/' :: r => (['.'], '/' :: r)
  | cs => ([], cs)

/-- The components of a path. -/
def components (path : String) : List Component :=
  let (anchor, rest) := splitAnchor path.toList
  let first := match anchor with
    | ['/'] => [Component.root]
    | ['.'] => [Component.current]
    | _ => []
  first ++ ((pieces rest).filter (!isIdle ·)).map fun p =>
    if p = ['.', '.'] then .parent else .name p

/-- Whether two texts are the same path. -/
def same (p q : String) : Bool :=
  components p == components q

/-! ## 3. The directories above a path -/

/-- The texts of the directories above pieces that stand last first. -/
def above (anchor : List Char) : List (List Char) → List String
  | [] => []
  | p :: ps =>
      if isIdle p then above anchor ps
      else String.ofList (anchor ++ joined (ps.dropWhile isIdle).reverse) :: above anchor ps

/-- The directories above a path, the nearest first. Each is a beginning of the path's
text; the working directory, where the path does not name it, is the empty text. -/
def parents (path : String) : List String :=
  let (anchor, rest) := splitAnchor path.toList
  above anchor (pieces rest).reverse

/-- The directory that files land in whose names begin with `stem`: the stem itself if
it ends in a slash, else the directory above it, if the stem names one. -/
def outputDirectory? (stem : String) : Option String :=
  if stem.toList.getLast? = some '/' then some stem
  else (parents stem).head?.filter (!·.isEmpty)

/-- The path of a variable's chart. -/
def chartPath (stem name : String) : String :=
  stem ++ name ++ ".svg"

/-- The path of a variable's table of points. -/
def tablePath (stem name : String) : String :=
  stem ++ name ++ ".csv"

end FlowTriad.Path
