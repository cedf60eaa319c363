/-
`Variable/NameTable.lean` -- the generator's names for variables.

The generator mostly calls a quantity by its usual name in small letters. The table
holds the exceptions. Its entries are told apart by exact spelling, but looked up
and replaced without regard to ASCII case, so a table may hold several spellings of
one name; the first of them in byte order is the one that is found.
-/
import FlowTriad.Keyed
import FlowTriad.Text.Casing

set_option autoImplicit false

namespace FlowTriad

/-- Exceptions to the rule that the generator's name is the variable's in small
letters. -/
structure NameTable where
  overrides : Keyed String
  deriving DecidableEq

namespace NameTable

/-- The table of a list of pairs; of several with one spelling the last one counts. -/
def ofList (pairs : List (String × String)) : NameTable :=
  ⟨Keyed.ofList pairs⟩

/-- The usual exceptions: the congestion window, which the generator reports in bytes,
and the bytes sent, which it reports for each interval. -/
def standard : NameTable :=
  ofList [("sndcwnd", "snd_cwnd"), ("bytessent", "bytes")]

/-- The entry that a name finds: the first in byte order that is the same name up to
ASCII case. -/
def find? (t : NameTable) (name : String) : Option (String × String) :=
  t.overrides.entries.find? fun e => Text.sameIgnoringCase e.1 name

/-- The generator's name for a variable. -/
def resolve (t : NameTable) (name : String) : String :=
  match t.find? name with
  | some e => e.2
  | none => String.ofList (Text.lower name.toList)

/-- The table with one more entry, which replaces all other spellings of its name. -/
def override (t : NameTable) (e : String × String) : NameTable :=
  ⟨(t.overrides.filter fun d => !Text.sameIgnoringCase d.1 e.1).insert e.1 e.2⟩

/-- The table with another one laid over it, entry by entry in byte order. -/
def merge (t u : NameTable) : NameTable :=
  u.overrides.entries.foldl override t

end NameTable

end FlowTriad
