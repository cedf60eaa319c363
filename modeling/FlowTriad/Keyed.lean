/-
`Keyed.lean` -- finite tables from names to values.

The members of a JSON object, the numeric fields of a sample and the name table
are all the same thing: at most one value for each name, listed in the byte order
of the names. The order is what every answer of the program shows, and what
decides which of two entries comes first where several qualify.

The list operations come first and stand on their own, because a JSON value holds
its members as a plain list. `Keyed` then packs a list with the proof that it is
in strict order, so that two tables with the same entries are equal.
-/

set_option autoImplicit false

namespace FlowTriad

variable {α : Type}

/-! ## 1. Sorted entry lists -/

namespace Entries

/-- The entries with `value` under `name`: in place of an entry of that name, else
at the name's place in the order. -/
def insert (name : String) (value : α) : List (String × α) → List (String × α)
  | [] => [(name, value)]
  | e :: r =>
      if name < e.1 then (name, value) :: e :: r
      else if name = e.1 then (name, value) :: r
      else e :: insert name value r

/-- A name of an enlarged list is the new one or an old one. -/
theorem mem_insert {name : String} {value : α} {l : List (String × α)} {e : String × α}
    (h : e ∈ insert name value l) : e = (name, value) ∨ e ∈ l := by
  induction l with
  | nil => simpa [insert] using h
  | cons d r ih =>
    unfold insert at h
    split at h
    · simpa using h
    · split at h
      · rcases List.mem_cons.1 h with h | h
        · exact .inl h
        · exact .inr (List.mem_cons_of_mem _ h)
      · rcases List.mem_cons.1 h with h | h
        · exact .inr (h ▸ List.mem_cons_self)
        · rcases ih h with h | h
          · exact .inl h
          · exact .inr (List.mem_cons_of_mem _ h)

/-- Entries in strict byte order of their names. -/
abbrev Sorted (l : List (String × α)) : Prop :=
  l.Pairwise fun a b => a.1 < b.1

/-- Of two different names that are not in order, the second comes first. -/
theorem lt_of_not_lt {a b : String} (h : ¬ a < b) (hne : a ≠ b) : b < a :=
  Std.lt_of_le_of_ne (String.not_lt.1 h) (Ne.symm hne)

/-- Insertion keeps the order. -/
theorem sorted_insert (name : String) (value : α) {l : List (String × α)} (h : Sorted l) :
    Sorted (insert name value l) := by
  induction l with
  | nil => simp [insert, Sorted]
  | cons e r ih =>
    have hr := List.pairwise_cons.1 h
    unfold insert
    split
    · next hlt =>
      refine List.pairwise_cons.2 ⟨fun d hd => ?_, h⟩
      rcases List.mem_cons.1 hd with rfl | hd
      · exact hlt
      · exact String.lt_trans hlt (hr.1 d hd)
    · split
      · next heq => exact List.pairwise_cons.2 ⟨fun d hd => heq ▸ hr.1 d hd, hr.2⟩
      · next hlt hne =>
        refine List.pairwise_cons.2 ⟨fun d hd => ?_, ih hr.2⟩
        rcases mem_insert hd with rfl | hd
        · exact lt_of_not_lt hlt hne
        · exact hr.1 d hd

end Entries

/-! ## 2. Tables -/

/-- A finite table: one value for each name, in byte order of the names. -/
structure Keyed (α : Type) where
  entries : List (String × α)
  sorted : Entries.Sorted entries

namespace Keyed

/-- Tables with the same entries are the same table. -/
@[ext] theorem ext {t u : Keyed α} (h : t.entries = u.entries) : t = u := by
  cases t; cases u; cases h; rfl

instance [DecidableEq α] : DecidableEq (Keyed α) := fun t u =>
  decidable_of_iff (t.entries = u.entries) ⟨Keyed.ext, fun h => h ▸ rfl⟩

/-- The table without entries. -/
def empty : Keyed α := ⟨[], List.Pairwise.nil⟩

instance : Inhabited (Keyed α) := ⟨empty⟩

/-- The table with `value` under `name`, whatever was there before. -/
def insert (name : String) (value : α) (t : Keyed α) : Keyed α :=
  ⟨Entries.insert name value t.entries, Entries.sorted_insert name value t.sorted⟩

/-- The table of a list of pairs; of several with one name the last one counts. -/
def ofList (l : List (String × α)) : Keyed α :=
  l.foldl (fun t e => t.insert e.1 e.2) empty

/-- The value under a name. -/
def get? (t : Keyed α) (name : String) : Option α :=
  t.entries.lookup name

/-- The entries that pass a test. -/
def filter (p : String × α → Bool) (t : Keyed α) : Keyed α :=
  ⟨t.entries.filter p, t.sorted.filter p⟩

/-- The number of entries. -/
def size (t : Keyed α) : Nat :=
  t.entries.length

end Keyed

end FlowTriad
