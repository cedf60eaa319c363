/-
`Capture/Record.lean` -- looking into JSON objects, with a name for what is missing.

Records and reports are JSON objects whose members are found by name. A member that
is absent and a member that is null are the same defect; a member of another kind
than is needed is a different one. The functions here name the path to the member,
which is what the messages show.
-/
import FlowTriad.Fault
import FlowTriad.Json

set_option autoImplicit false

namespace FlowTriad

/-- The numbers of one measurement, by the names their source gives them. -/
abbrev NumericFields := Keyed Float

/-- The members of an object that are numbers. -/
def NumericFields.ofMembers (ms : Json.Members) : NumericFields :=
  Keyed.ofList (ms.filterMap fun (k, v) => v.float?.map (k, ·))

namespace Json

/-- The value as an object, named in the defect as it reads in the message. -/
def asObject (what : String) (j : Json) : Except Defect Members :=
  match j.members? with
  | some ms => .ok ms
  | none => .error (.notObject what)

/-- A member that is present and not null. -/
def Members.present? (ms : Members) (name : String) : Option Json :=
  (ms.get? name).filter (!·.isNull)

/-- A member that must be an object. -/
def Members.object (ms : Members) (name path : String) : Except Defect Members :=
  match ms.present? name with
  | none => .error (.missing path)
  | some v => v.asObject ("'" ++ path ++ "'")

/-- A member that must be a string. -/
def Members.string (ms : Members) (name path : String) : Except Defect String :=
  match ms.present? name with
  | none => .error (.missing path)
  | some v =>
      match v.string? with
      | some s => .ok s
      | none => .error (.notString path)

end Json

end FlowTriad
