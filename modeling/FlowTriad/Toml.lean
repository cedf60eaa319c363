/-
`Toml.lean` -- TOML values, and tables that are filled step by step.

A configuration is a TOML document: a table whose values may be tables again. A
document names its tables piecemeal, in headers and in keys with dots, so a table
may be begun in one place and gone on with in another. What may be added to it
where depends on how it came to be, and that is what `TableKind` keeps.

* A table is *closed* once it is complete in itself, as an inline table is: nothing
  is added to it from outside.
* A table that has had its own header is not gone on with by dotted keys, nor does it
  get a second header.
* A table that only stands in the path of another header may get a header once.
* A table that dotted keys have made is gone on with by dotted keys only, but headers
  may name tables inside it.
-/
import FlowTriad.Keyed

set_option autoImplicit false

namespace FlowTriad

/-- How a table came to be. -/
inductive Toml.TableKind where
  /-- It is the document, or has a header of its own. -/
  | header
  /-- It stands in the path of a header. -/
  | implied
  /-- It stands in the path of a key with dots. -/
  | dotted
  /-- It is written as a value. -/
  | inline
  deriving DecidableEq, Repr

/-- A TOML value. -/
inductive Toml where
  | text (s : String)
  | integer (n : Int)
  | real (x : Float)
  | boolean (b : Bool)
  /-- A date, a time of day, or both, in its standard form. -/
  | moment (written : String)
  /-- An array that is written as a value. -/
  | array (items : List Toml)
  | table (kind : Toml.TableKind) (entries : List (String × Toml))
  /-- An array of tables that each have a header, in order. -/
  | tables (items : List (List (String × Toml)))
  deriving Inhabited

namespace Toml

/-- The entries of a table, in byte order of their keys. -/
abbrev Entries := List (String × Toml)

/-- A change of a table's entries, which may depend on the kind of the table and may be
refused. -/
abbrev Change := TableKind → Entries → Option Entries

/-- Whether a path may lead through a table, when it is the path of a key with dots or
when it is that of a header. -/
def TableKind.admits (kind : TableKind) (dotted : Bool) : Bool :=
  match kind with
  | .header => !dotted
  | .implied | .dotted => true
  | .inline => false

/-- Applies a change to the table that a path leads to. Tables that are not there yet
are made on the way, and an array of tables stands for its last one. -/
def within (dotted : Bool) (change : Change) (kind : TableKind) :
    List String → Entries → Option Entries
  | [], es => change kind es
  | key :: path, es =>
      match es.lookup key with
      | none =>
          let made : TableKind := if dotted then .dotted else .implied
          (within dotted change made path []).map fun inner =>
            FlowTriad.Entries.insert key (.table made inner) es
      | some (.table found inner) =>
          if found.admits dotted then
            (within dotted change found path inner).map fun inner =>
              FlowTriad.Entries.insert key (.table found inner) es
          else none
      | some (.tables items) =>
          (within dotted change .header path (items.getLast?.getD [])).map fun inner =>
            FlowTriad.Entries.insert key (.tables (items.dropLast ++ [inner])) es
      | some _ => none

/-- Adds an entry under a key that is not taken. `dotted` says that the key has come
with dots, and then the table must have been made for that, else it must not. -/
def put (dotted : Bool) (key : String) (v : Toml) : Change := fun kind es =>
  if (kind == .dotted) != dotted || (es.lookup key).isSome then none
  else some (FlowTriad.Entries.insert key v es)

/-- Adds an entry under a key with dots, the last part of which is `key`. -/
def putAt (path : List String) (key : String) (v : Toml) : Change := fun kind es =>
  within true (put (!path.isEmpty) key v) kind path es

/-- Gives a table its header. -/
def openTable (key : String) : Change := fun _ es =>
  match es.lookup key with
  | none => some (FlowTriad.Entries.insert key (.table .header []) es)
  | some (.table .implied inner) => some (FlowTriad.Entries.insert key (.table .header inner) es)
  | some _ => none

/-- Begins one more table of an array of tables. -/
def appendTable (key : String) : Change := fun _ es =>
  match es.lookup key with
  | none => some (FlowTriad.Entries.insert key (.tables [[]]) es)
  | some (.tables items) => some (FlowTriad.Entries.insert key (.tables (items ++ [[]])) es)
  | some _ => none

end Toml

end FlowTriad
