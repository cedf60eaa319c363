/-
`Json.lean` -- JSON values.

Captures and reports are JSON documents, and so is the summary of a run. A number is
kept as a whole number where it was written as one and fits into 64 bits, and as a
double otherwise; both are the same to `Number.toFloat`. The members of an object
are kept in byte order of their names, one for each name.
-/
import FlowTriad.Keyed

set_option autoImplicit false

namespace FlowTriad

/-- A JSON number. -/
inductive Json.Number where
  | integer (n : Int)
  | real (x : Float)
  deriving DecidableEq

/-- The double nearest to the number. -/
def Json.Number.toFloat : Json.Number → Float
  | .integer n => Float.ofInt n
  | .real x => x

/-- A JSON value. -/
inductive Json where
  | null
  | bool (b : Bool)
  | number (n : Json.Number)
  | string (s : String)
  | array (items : List Json)
  | object (members : List (String × Json))
  deriving Inhabited

namespace Json

mutual
/-- Two values are compared part by part. -/
def decEq : (a b : Json) → Decidable (a = b)
  | .null, .null => .isTrue rfl
  | .bool x, .bool y => decidable_of_iff (x = y) (by rw [Json.bool.injEq])
  | .number x, .number y => decidable_of_iff (x = y) (by rw [Json.number.injEq])
  | .string x, .string y => decidable_of_iff (x = y) (by rw [Json.string.injEq])
  | .array x, .array y =>
      have := decEqItems x y
      decidable_of_iff (x = y) (by rw [Json.array.injEq])
  | .object x, .object y =>
      have := decEqMembers x y
      decidable_of_iff (x = y) (by rw [Json.object.injEq])
  | .null, .bool _ | .null, .number _ | .null, .string _ | .null, .array _ | .null, .object _
  | .bool _, .null | .bool _, .number _ | .bool _, .string _ | .bool _, .array _
  | .bool _, .object _ | .number _, .null | .number _, .bool _ | .number _, .string _
  | .number _, .array _ | .number _, .object _ | .string _, .null | .string _, .bool _
  | .string _, .number _ | .string _, .array _ | .string _, .object _ | .array _, .null
  | .array _, .bool _ | .array _, .number _ | .array _, .string _ | .array _, .object _
  | .object _, .null | .object _, .bool _ | .object _, .number _ | .object _, .string _
  | .object _, .array _ => .isFalse nofun

/-- So are lists of values, item by item, -/
def decEqItems : (a b : List Json) → Decidable (a = b)
  | [], [] => .isTrue rfl
  | [], _ :: _ | _ :: _, [] => .isFalse nofun
  | x :: xs, y :: ys =>
      have := decEq x y
      have := decEqItems xs ys
      decidable_of_iff (x = y ∧ xs = ys) List.cons_eq_cons.symm

/-- and the members of objects, in their order. -/
def decEqMembers : (a b : List (String × Json)) → Decidable (a = b)
  | [], [] => .isTrue rfl
  | [], _ :: _ | _ :: _, [] => .isFalse nofun
  | (n, x) :: xs, (m, y) :: ys =>
      have := decEq x y
      have := decEqMembers xs ys
      decidable_of_iff ((n = m ∧ x = y) ∧ xs = ys) (by rw [List.cons_eq_cons, Prod.mk.injEq])
end

instance : DecidableEq Json := decEq

/-- The members of an object. -/
abbrev Members := List (String × Json)

/-- The member of a name. -/
def Members.get? (ms : Members) (name : String) : Option Json :=
  ms.lookup name

/-- The members of an object value. -/
def members? : Json → Option Members
  | object ms => some ms
  | _ => none

/-- The items of an array value. -/
def items? : Json → Option (List Json)
  | array js => some js
  | _ => none

/-- The text of a string value. -/
def string? : Json → Option String
  | string s => some s
  | _ => none

/-- The double of a number value. -/
def float? : Json → Option Float
  | number n => some n.toFloat
  | _ => none

/-- Whether the value is null. -/
def isNull : Json → Bool
  | null => true
  | _ => false

end Json

end FlowTriad
