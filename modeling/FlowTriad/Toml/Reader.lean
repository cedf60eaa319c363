/-
`Toml/Reader.lean` -- reading a TOML document.

A document is a sequence of statements, each on a line of its own: the header of a
table, the header of one more table of an array, or an entry. Statements change the
tree of tables one after the other (`Toml.within`), and the first that is refused
makes the whole text no document. Why it is refused is not told.

Values nest. How deep they may is a limit of the reader, and it is what the reader of
values counts down; the number of parts of a key has the same limit. The loops over
the items of an array, the parts of a key and the statements end because each turn
takes something of the text.
-/
import FlowTriad.Toml.Quoted
import FlowTriad.Toml.Scalar

set_option autoImplicit false

namespace FlowTriad.Toml

/-- One more than the most arrays and inline tables that may stand in each other, and
than the most parts that a key may have. -/
def depthLimit : Nat := 80

/-! ## 1. Between values -/

/-- The text with every carriage return and line feed made one line feed. A carriage
return that is left stands nowhere in a document. -/
def withLineFeeds : List Char → List Char
  | [] => []
  | '\r' :: '\n' :: r => '\n' :: withLineFeeds r
  | c :: r => c :: withLineFeeds r

/-- The text after white space within a line. -/
def skipSpace (cs : List Char) : List Char :=
  cs.dropWhile isSpace

/-- The text after white space, ends of lines and comments; `inComment` says that it
begins within a comment. -/
def skipFiller (inComment : Bool) : List Char → List Char
  | [] => []
  | c :: r =>
      if c = '\n' then skipFiller false r
      else if inComment then if isPlain c then skipFiller true r else c :: r
      else if isSpace c then skipFiller false r
      else if c = '#' then skipFiller true r
      else c :: r

/-- The text after the end of a line, which may have a comment before it. -/
def lineEnd? (cs : List Char) : Option (List Char) :=
  let cs := skipSpace cs
  let cs := match cs with
    | '#' :: r => r.dropWhile isPlain
    | cs => cs
  match cs with
  | [] => some []
  | '\n' :: r => some r
  | _ => none

/-! ## 2. Keys -/

/-- Whether a character can be part of a key that is not quoted. -/
def isKeyChar (c : Char) : Bool :=
  c.isAlphanum || c == '_' || c == '-'

/-- One part of a key. -/
def keyPart? (cs : List Char) : Option (String × List Char) :=
  match cs with
  | '"' :: r => (basic false [] .none r).map fun (s, r) => (String.ofList s, r)
  | '\'' :: r => (literal false [] r).map fun (s, r) => (String.ofList s, r)
  | cs =>
      let s := cs.takeWhile isKeyChar
      if s.isEmpty then none else some (String.ofList s, cs.drop s.length)

/-- The parts of a key with dots, with white space around them. -/
def keyParts? (cs : List Char) : Option (List String × List Char) :=
  match keyPart? (skipSpace cs) with
  | none => none
  | some (k, r) =>
      match skipSpace r with
      | '.' :: r =>
          if r.length < cs.length then (keyParts? r).map fun (ks, r) => (k :: ks, r) else none
      | r => some ([k], r)
termination_by cs.length

/-- A key: the parts before the last one, and that. -/
def key? (cs : List Char) : Option ((List String × String) × List Char) := do
  let (ks, r) ← keyParts? cs
  let last ← ks.getLast?
  if ks.length < depthLimit then some ((ks.dropLast, last), r) else none

/-! ## 3. Values -/

/-- A function that reads a value in front of a text. -/
abbrev ValueReader := List Char → Option (Toml × List Char)

/-- A value that holds no others: a string, or a scalar that is not quoted. A date may
have a time after a space. -/
def leaf? : ValueReader := fun cs =>
  match quoted? cs with
  | some (s, r) => some (.text (String.ofList s), r)
  | none =>
      let run := cs.takeWhile isScalarChar
      let rest := cs.drop run.length
      let timed := match rest with
        | ' ' :: r => run ++ ' ' :: r.takeWhile isScalarChar
        | _ => run
      if isDate run && (moment? timed).isSome then
        (scalar? timed).map (·, cs.drop timed.length)
      else (scalar? run).map (·, rest)

/-- The rest of an array, its items so far last first. A comma may stand after the last
item. -/
def arrayRest? (value : ValueReader) (read : List Toml) (cs : List Char) :
    Option (List Toml × List Char) :=
  match skipFiller false cs with
  | ']' :: r => some (read.reverse, r)
  | start =>
      match value start with
      | none => none
      | some (v, r) =>
          match skipFiller false r with
          | ']' :: r => some ((v :: read).reverse, r)
          | ',' :: r => if r.length < cs.length then arrayRest? value (v :: read) r else none
          | _ => none
termination_by cs.length

/-- An entry in front of a text: its key and its value. -/
def entry? (value : ValueReader) (cs : List Char) :
    Option ((List String × String) × Toml × List Char) := do
  let (key, r) ← key? cs
  match r with
  | '=' :: r => do
      let (v, r) ← value (skipSpace r)
      return (key, v, r)
  | _ => none

/-- The rest of an inline table that has at least one more entry. -/
def inlineRest? (value : ValueReader) (read : Entries) (cs : List Char) :
    Option (Entries × List Char) :=
  match entry? value cs with
  | none => none
  | some ((path, key), v, r) =>
      match putAt path key v .inline read with
      | none => none
      | some read =>
          match skipSpace r with
          | '}' :: r => some (read, r)
          | ',' :: r => if r.length < cs.length then inlineRest? value read r else none
          | _ => none
termination_by cs.length

/-- A value; `room` says how many arrays and inline tables may stand in each other. -/
def value : Nat → ValueReader
  | 0 => leaf?
  | room + 1 => fun cs =>
      match cs with
      | '[' :: r => (arrayRest? (value room) [] r).map fun (vs, r) => (.array vs, r)
      | '{' :: r =>
          match skipSpace r with
          | '}' :: r => some (.table .inline [], r)
          | _ => (inlineRest? (value room) [] r).map fun (es, r) => (.table .inline es, r)
      | cs => leaf? cs

/-! ## 4. Statements -/

/-- A document that is being read. -/
structure Draft where
  root : Entries
  /-- The table that entries go into. -/
  header : List String
  deriving Inhabited

namespace Draft

/-- The document after a header. -/
def withHeader (change : String → Change) (path : List String) (key : String) (d : Draft) :
    Option Draft :=
  (within false (change key) .header path d.root).map (⟨·, path ++ [key]⟩)

/-- The document after an entry. -/
def withEntry (path : List String) (key : String) (v : Toml) (d : Draft) : Option Draft :=
  (within false (putAt path key v) .header d.header d.root).map ({ d with root := · })

/-- The document after the statement in front of a text, and the lines after it. -/
def statement (d : Draft) (cs : List Char) : Option (Draft × List Char) :=
  match cs with
  | '#' :: _ | '\n' :: _ => do return (d, ← lineEnd? cs)
  | '[' :: '[' :: r => do
      let ((path, key), r) ← key? r
      match r with
      | ']' :: ']' :: r => do return (← d.withHeader appendTable path key, ← lineEnd? r)
      | _ => none
  | '[' :: r => do
      let ((path, key), r) ← key? r
      match r with
      | ']' :: r => do return (← d.withHeader openTable path key, ← lineEnd? r)
      | _ => none
  | cs => do
      let ((path, key), v, r) ← entry? (value (depthLimit - 1)) cs
      return (← d.withEntry path key v, ← lineEnd? r)

/-- The document after all statements of a text. -/
def statements (d : Draft) (cs : List Char) : Option Draft :=
  match skipSpace cs with
  | [] => some d
  | start =>
      match d.statement start with
      | none => none
      | some (d, r) => if r.length < cs.length then statements d r else none
termination_by cs.length

end Draft

/-- The text without a byte order mark in front. -/
def withoutMark : List Char → List Char
  | '\uFEFF' :: r => r
  | cs => cs

/-- The entries of the document that a text is, if it is one. -/
def read (text : String) : Option Entries :=
  (Draft.statements ⟨[], []⟩ (withLineFeeds (withoutMark text.toList))).map (·.root)

end FlowTriad.Toml
