/-
`Settings/Loading.lean` -- settings from a configuration document.

A configuration is a TOML document. A key that it does not have leaves the setting at
its default, and a key that no setting has is passed over. Two settings do more than
replace their defaults or less: the names of the generator are laid over the usual
ones, while a list of variables takes the place of the usual list.

A document that says something else than a setting can hold is no configuration.
What is wrong with it is not told apart; `Settings.check` is what looks into the
values of a configuration that can be read.
-/
import FlowTriad.Settings
import FlowTriad.Toml.Reader

set_option autoImplicit false

namespace FlowTriad

namespace Toml

/-! ## 1. What a value can be read as -/

/-- The value as a text. -/
def text? : Toml → Option String
  | text s => some s
  | _ => none

/-- The value as a count. -/
def count? : Toml → Option Nat
  | integer (.ofNat n) => some n
  | _ => none

/-- The value as a double; whole numbers are doubles too. -/
def float? : Toml → Option Float
  | real x => some x
  | integer n => some (Float.ofInt n)
  | _ => none

/-- The key under which a date or a time stands if it is read as a table. -/
def momentKey : String := "$__toml_private_datetime"

/-- The value as a table. -/
def entries? : Toml → Option Entries
  | table _ es => some es
  | moment written => some [(momentKey, text written)]
  | _ => none

/-- The value as a list. -/
def items? : Toml → Option (List Toml)
  | array vs => some vs
  | tables items => some (items.map (table .header))
  | _ => none

/-- The value as a table of texts, as pairs. -/
def texts? (v : Toml) : Option (List (String × String)) := do
  (← v.entries?).mapM fun (k, v) => v.text?.map (k, ·)

/-- Whether the value is a table or a list without content. -/
def isVoid : Toml → Bool
  | array [] | table _ [] | tables [] => true
  | _ => false

/-- The value as a derivation: its name, or a table that has the name as its only key
and nothing under it. -/
def derivation? : Toml → Option Derivation
  | text s => Derivation.ofName? s
  | table _ [(name, v)] => if v.isVoid then Derivation.ofName? name else none
  | _ => none

end Toml

/-! ## 2. Optional values -/

/-- A value that may be missing, in which case it is the default. One that is there must
be readable. -/
def orDefault {α : Type} (default : α) (read : Toml → Option α) : Option Toml → Option α
  | none => some default
  | some v => read v

/-! ## 3. Variables -/

namespace Variable

/-- The variable whose properties a function finds by their names. The first three must
be there. -/
def ofProperties? (find : String → Option Toml) : Option Variable := do
  let optionalText := orDefault none fun v => v.text?.map some
  return {
    name := ← (← find "variable").text?
    title := ← (← find "title").text?
    axis := ← (← find "y_label").text?
    scale := ← orDefault 1.0 Toml.float? (find "scale")
    kernelDerivation := ← orDefault .identity Toml.derivation? (find "kernel_derivation")
    generatorDerivation := ← orDefault .identity Toml.derivation? (find "generator_derivation")
    kernelKey := ← optionalText (find "kernel_key")
    probeKey := ← optionalText (find "probe_key")
    generatorKey := ← optionalText (find "generator_key") }

/-- The names of a variable's properties, in the order in which a list gives them. -/
def properties : List String :=
  ["variable", "title", "y_label", "scale", "kernel_derivation", "generator_derivation",
   "kernel_key", "probe_key", "generator_key"]

/-- The variable of a table, or of a list that gives its properties in order and may
stop early. -/
def ofToml? : Toml → Option Variable
  | .array vs => ofProperties? fun name => (properties.zip vs).lookup name
  | v => v.entries?.bind fun es => ofProperties? fun name => es.lookup name

end Variable

/-! ## 4. Settings -/

namespace Settings

/-- The settings of a document. -/
def ofToml? (document : Toml.Entries) : Option Settings := do
  let setting {α : Type} (name : String) (default : α) (read : Toml → Option α) :=
    orDefault default read (document.lookup name)
  let usual : Settings := {}
  return {
    lifecycleState := ← setting "lifecycle_state" usual.lifecycleState Toml.text?
    kernelKey := ← setting "kernel_capture_key" usual.kernelKey Toml.text?
    probeKey := ← setting "probe_capture_key" usual.probeKey Toml.text?
    metricsKey := ← setting "metrics_key" usual.metricsKey Toml.text?
    generatorStream := ← setting "generator_stream" usual.generatorStream Toml.count?
    segmentSizeKey := ← setting "segment_size_key" usual.segmentSizeKey Toml.text?
    names := ← setting "name_overrides" usual.names fun v =>
      v.texts?.map fun pairs => NameTable.standard.merge (NameTable.ofList pairs)
    compared := ← setting "variables" usual.compared fun v =>
      v.items?.bind (·.mapM Variable.ofToml?) }

/-- The settings of a text, not yet checked. -/
def read (text : String) : Except Fault Settings :=
  match (Toml.read text).bind ofToml? with
  | some s => .ok s
  | none => .error (.settings .unreadable)

/-- The settings of a text, which must hold together. -/
def load (text : String) : Except Fault Settings := do
  let s ← read text
  s.check
  return s

end Settings

end FlowTriad
