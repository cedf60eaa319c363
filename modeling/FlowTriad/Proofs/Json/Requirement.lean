/-
`Proofs/Json/Requirement.lean` -- what a document must have, and what it lacks first.

The readers of records and reports look into a document step by step, and stop at the
first step that fails. What they ask for can be said without the steps, as a list of
requirements: at the end of a path from the whole document there must be a value, and one
of some form (`Requirement`). A reader then refuses a document exactly when it fails a
requirement, and names the first in the list (`findSome?_defect?_eq_some`).

The last section ties the steps to the requirements, one lemma for each kind of step. They
are stated as searches through a list of one, so that the steps of a reader are chained by
`refusal?_bind` alone.
-/
import FlowTriad.Capture.Report
import FlowTriad.Proofs.Json.Reader
import FlowTriad.Proofs.Outcome

set_option autoImplicit false

namespace FlowTriad

namespace Json

/-! ## 1. Paths -/

/-- A step from a value to a part of it. -/
inductive Part where
  /-- To the member of a name, of an object. -/
  | member (name : String)
  /-- To the item at a position, of an array. -/
  | item (index : ℕ)

/-- The part of a value that a step leads to. -/
def part? : Part → Json → Option Json
  | .member name, .object ms => Members.get? ms name
  | .item i, .array items => items[i]?
  | _, _ => none

/-- The part of a value that a path leads to, step by step. -/
def at? (j : Json) : List Part → Option Json
  | [] => some j
  | p :: path => (part? p j).bind (at? · path)

theorem at?_append (j : Json) (p q : List Part) : j.at? (p ++ q) = (j.at? p).bind (at? · q) := by
  induction p generalizing j with
  | nil => rfl
  | cons step p ih =>
    rw [List.cons_append, at?, at?]
    cases part? step j with
    | none => rfl
    | some v => exact ih v

theorem at?_singleton (j : Json) (p : Part) : j.at? [p] = part? p j :=
  Option.bind_fun_some (part? p j)

/-- One step further from an object. -/
theorem at?_member {j : Json} {p : List Part} {ms : Members} (h : j.at? p = some (.object ms))
    (name : String) : j.at? (p ++ [.member name]) = ms.get? name := by
  rw [at?_append, h, Option.bind_some, at?_singleton]
  rfl

theorem part?_member_eq_some {j v : Json} {name : String} :
    part? (.member name) j = some v ↔ ∃ ms : Members, j = .object ms ∧ ms.get? name = some v := by
  cases j <;> simp [part?]

theorem part?_item_eq_some {j v : Json} {i : ℕ} :
    part? (.item i) j = some v ↔ ∃ items, j = .array items ∧ items[i]? = some v := by
  cases j <;> simp [part?]

/-- A path of two names leads to a member of a member. -/
theorem at?_pair {j v : Json} {a b : String} :
    j.at? [.member a, .member b] = some v ↔
      ∃ ms inner : Members, j = .object ms ∧ ms.get? a = some (.object inner) ∧
        inner.get? b = some v := by
  rw [at?, Option.bind_eq_some_iff]
  simp only [at?_singleton, part?_member_eq_some]
  constructor
  · rintro ⟨u, ⟨ms, rfl, ha⟩, inner, rfl, hb⟩
    exact ⟨ms, inner, rfl, ha, hb⟩
  · rintro ⟨ms, inner, rfl, ha, hb⟩
    exact ⟨_, ⟨ms, rfl, ha⟩, inner, rfl, hb⟩

/-- A part of a document in order is in order. -/
theorem Ordered.at? {j v : Json} {p : List Part} (h : j.Ordered) (hv : j.at? p = some v) :
    v.Ordered := by
  induction p generalizing j with
  | nil =>
    cases hv
    exact h
  | cons step p ih =>
    obtain ⟨u, hu, hv⟩ := Option.bind_eq_some_iff.1 hv
    refine ih ?_ hv
    cases step with
    | member name =>
      obtain ⟨ms, rfl, hget⟩ := part?_member_eq_some.1 hu
      obtain ⟨earlier, later, rfl, -⟩ := List.lookup_eq_some_iff.1 hget
      cases h with
      | object _ hms => exact hms _ (List.mem_append_right _ List.mem_cons_self)
    | item i =>
      obtain ⟨items, rfl, hget⟩ := part?_item_eq_some.1 hu
      cases h with
      | array hitems => exact hitems u (List.mem_of_getElem? hget)

end Json

open Json (Part)

/-! ## 2. Requirements -/

/-- A form of values. -/
inductive Form where
  | object
  | array
  | string
  | number

/-- Whether a value is of a form. -/
def Form.admits : Form → Json → Bool
  | .object, .object _ | .array, .array _ | .string, .string _ | .number, .number _ => true
  | _, _ => false

/-- That a document has a value of a form at the end of a path, with the defects that it
has otherwise. -/
structure Requirement where
  path : List Part
  form : Form
  /-- Whether null is as good as nothing; else it is a value of the wrong form. -/
  nullIsAbsent : Bool
  /-- What is wrong where there is nothing. -/
  absent : Defect
  /-- What is wrong where there is something else. -/
  misformed : Defect

namespace Requirement

variable {j : Json} {r : Requirement} {rs : List Requirement} {d : Defect}

/-- What there is at the end of the path. -/
def found? (r : Requirement) (j : Json) : Option Json :=
  (j.at? r.path).filter fun v => !(r.nullIsAbsent && v.isNull)

/-- That a document fulfils a requirement. -/
def Met (r : Requirement) (j : Json) : Prop :=
  ∃ v, r.found? j = some v ∧ r.form.admits v

/-- What is wrong with a document that does not. -/
def blame (r : Requirement) (j : Json) : Defect :=
  match r.found? j with
  | none => r.absent
  | some _ => r.misformed

/-- What is wrong with a document, if something is. -/
def defect? (r : Requirement) (j : Json) : Option Defect :=
  match r.found? j with
  | none => some r.absent
  | some v => if r.form.admits v then none else some r.misformed

theorem defect?_eq_none : r.defect? j = none ↔ r.Met j := by
  unfold defect? Met
  cases r.found? j with
  | none => simp
  | some v => simp

theorem defect?_eq_some : r.defect? j = some d ↔ ¬ r.Met j ∧ r.blame j = d := by
  unfold defect? Met blame
  cases r.found? j with
  | none => simp
  | some v => cases hv : r.form.admits v <;> simp [hv]

/-- That a requirement is the first of a list that a document fails. -/
def FirstFailing (rs : List Requirement) (j : Json) (r : Requirement) : Prop :=
  ∃ earlier later, rs = earlier ++ r :: later ∧ (∀ q ∈ earlier, q.Met j) ∧ ¬ r.Met j

/-- **A search for something wrong** finds what is wrong with the first requirement that is
failed. -/
theorem findSome?_defect?_eq_some :
    rs.findSome? (·.defect? j) = some d ↔ ∃ r, FirstFailing rs j r ∧ r.blame j = d := by
  simp only [List.findSome?_eq_some_iff, defect?_eq_some, defect?_eq_none, FirstFailing]
  constructor
  · rintro ⟨earlier, r, later, hrs, ⟨hr, hd⟩, hearlier⟩
    exact ⟨r, ⟨earlier, later, hrs, hearlier, hr⟩, hd⟩
  · rintro ⟨r, ⟨earlier, later, hrs, hearlier, hr⟩, hd⟩
    exact ⟨earlier, r, later, hrs, ⟨hr, hd⟩, hearlier⟩

theorem firstFailing_iff :
    FirstFailing rs j r ↔ rs.find? (fun q => (q.defect? j).isSome) = some r := by
  have hfails (q : Requirement) : (q.defect? j).isSome ↔ ¬ q.Met j := by
    rw [← defect?_eq_none, Option.isSome_iff_ne_none]
  rw [List.find?_eq_some_iff_append]
  simp only [hfails, Bool.not_eq_true', ← Bool.not_eq_true, not_not, FirstFailing]
  constructor
  · rintro ⟨earlier, later, hrs, hearlier, hr⟩
    exact ⟨hr, earlier, later, hrs, hearlier⟩
  · rintro ⟨hr, earlier, later, hrs, hearlier⟩
    exact ⟨earlier, later, hrs, hearlier, hr⟩

/-- There is one such requirement at most. -/
theorem FirstFailing.unique {q : Requirement} (hr : FirstFailing rs j r)
    (hq : FirstFailing rs j q) : r = q :=
  Option.some.inj ((firstFailing_iff.1 hr).symm.trans (firstFailing_iff.1 hq))

theorem FirstFailing.mem (h : FirstFailing rs j r) : r ∈ rs := by
  obtain ⟨earlier, later, rfl, -, -⟩ := h
  exact List.mem_append_right _ List.mem_cons_self

theorem findSome?_defect?_eq_none : rs.findSome? (·.defect? j) = none ↔ ∀ r ∈ rs, r.Met j := by
  simp only [List.findSome?_eq_none_iff, defect?_eq_none]

/-! ## 3. What the steps of readers require -/

/-- A path through members, in words. -/
def dotted (names : List String) : String :=
  ".".intercalate names

/-- That the document as a whole is an object. There always is a document. -/
def whole (what : String) : Requirement :=
  ⟨[], .object, false, .notObject what, .notObject what⟩

/-- That there is an object under some names, of which null is none. -/
def objectAt (names : List String) : Requirement :=
  ⟨names.map .member, .object, true, .missing (dotted names),
    .notObject ("'" ++ dotted names ++ "'")⟩

/-- That there is a string under some names, of which null is none. -/
def stringAt (names : List String) : Requirement :=
  ⟨names.map .member, .string, true, .missing (dotted names), .notString (dotted names)⟩

/-- That there is an array under a name. Null is there, and no array. -/
def arrayAt (name : String) : Requirement :=
  ⟨[.member name], .array, false, .missing name, .notArray name⟩

/-- That a requirement calls missing what there is not, and nothing else. -/
structure Proper (r : Requirement) : Prop where
  absent : ∀ j, r.found? j = none → ∃ path, r.absent = .missing path
  misformed : ∀ path, r.misformed ≠ .missing path

theorem proper_whole (what : String) : (whole what).Proper where
  absent j h := by cases h
  misformed path h := by cases h

theorem proper_objectAt (names : List String) : (objectAt names).Proper where
  absent j _ := ⟨_, rfl⟩
  misformed path h := by cases h

theorem proper_stringAt (names : List String) : (stringAt names).Proper where
  absent j _ := ⟨_, rfl⟩
  misformed path h := by cases h

theorem Proper.missing_iff (h : r.Proper) :
    (∃ path, r.blame j = .missing path) ↔ r.found? j = none := by
  unfold blame
  cases hfound : r.found? j with
  | none => simp [h.absent j hfound]
  | some v => simp [h.misformed]

variable {ms : Json.Members} {name path : String} (names : List String)

theorem search_whole (what : String) (j : Json) :
    refusal? (j.asObject what) = [whole what].findSome? (·.defect? j) := by
  rw [List.findSome?_singleton]
  cases j <;> rfl

/-- What is found one name further from an object is the member, null aside where null is
nothing. -/
theorem found?_member (hat : j.at? (names.map .member) = some (.object ms)) (form : Form)
    (absent misformed : Defect) :
    found? ⟨(names ++ [name]).map .member, form, true, absent, misformed⟩ j = ms.present? name := by
  unfold found? Json.Members.present?
  rw [List.map_append, List.map_singleton, Json.at?_member hat]
  simp only [Bool.true_and]

theorem search_object (hat : j.at? (names.map .member) = some (.object ms))
    (hpath : path = dotted (names ++ [name])) :
    refusal? (ms.object name path) = [objectAt (names ++ [name])].findSome? (·.defect? j) := by
  rw [List.findSome?_singleton, defect?, objectAt, found?_member names hat, hpath]
  unfold Json.Members.object
  cases ms.present? name with
  | none => rfl
  | some v => cases v <;> rfl

theorem search_string (hat : j.at? (names.map .member) = some (.object ms))
    (hpath : path = dotted (names ++ [name])) :
    refusal? (ms.string name path) = [stringAt (names ++ [name])].findSome? (·.defect? j) := by
  rw [List.findSome?_singleton, defect?, stringAt, found?_member names hat, hpath]
  unfold Json.Members.string
  cases ms.present? name with
  | none => rfl
  | some v => cases v <;> rfl

/-- Where null is something, what is found is whatever there is. -/
theorem found?_eq (h : r.nullIsAbsent = false) (j : Json) : r.found? j = j.at? r.path := by
  unfold found?
  rw [h]
  cases j.at? r.path <;> rfl

theorem search_array (name : String) (ms : Json.Members) :
    refusal? (Report.arrayMember ms name) = [arrayAt name].findSome? (·.defect? (.object ms)) := by
  have hfound : (arrayAt name).found? (.object ms) = ms.get? name := by
    rw [found?_eq rfl]
    exact Json.at?_singleton _ _
  rw [List.findSome?_singleton, defect?, hfound]
  unfold Report.arrayMember
  cases ms.get? name with
  | none => rfl
  | some v => cases v <;> rfl

end Requirement

namespace Json

/-! ## 4. What the steps of readers find -/

variable {j : Json} {ms ms' : Members} {name path text : String}

theorem asObject_eq_ok {what : String} : j.asObject what = .ok ms ↔ j = .object ms := by
  cases j <;> simp [asObject, members?]

theorem Members.present?_eq_some {v : Json} (hv : v.isNull = false) :
    ms.present? name = some v ↔ ms.get? name = some v := by
  unfold Members.present?
  rw [Option.filter_eq_some_iff, hv]
  simp

theorem object_eq_ok : ms.object name path = .ok ms' ↔ ms.get? name = some (.object ms') := by
  rw [← Members.present?_eq_some rfl]
  unfold Members.object
  cases ms.present? name with
  | none => simp
  | some v => rw [asObject_eq_ok, Option.some.injEq]

/-- What is found as an object is found one step further. -/
theorem at?_of_object {p : List Part} (hat : j.at? p = some (.object ms))
    (h : ms.object name path = .ok ms') : j.at? (p ++ [.member name]) = some (.object ms') :=
  (at?_member hat name).trans (object_eq_ok.1 h)

theorem string_eq_ok : ms.string name path = .ok text ↔ ms.get? name = some (.string text) := by
  rw [← Members.present?_eq_some rfl]
  unfold Members.string
  cases ms.present? name with
  | none => simp
  | some v => cases v <;> simp [string?]

end Json

end FlowTriad
