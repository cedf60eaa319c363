/-
`Proofs/Keyed.lean` -- what is in a table.

A table lists its entries in the strict order of their names. That makes its list the only one
with these entries: a list in order is the list of its own table (`Keyed.entries_ofList`), and
tables with the same entries are the same (`Keyed.ext_mem`). Inserting an entry is seen only
by those who select its name, whatever they select by.
-/
import FlowTriad.Keyed
import Mathlib.Data.List.Induction
import Mathlib.Data.List.Sort

set_option autoImplicit false

namespace FlowTriad

/-! ## 1. Lists in order -/

namespace Entries

variable {α β : Type}

/-- An entry whose name comes after all others is put at the end. -/
theorem insert_of_lt {name : String} {value : α} {l : List (String × α)}
    (h : ∀ e ∈ l, e.1 < name) : insert name value l = l ++ [(name, value)] := by
  induction l with
  | nil => rfl
  | cons e r ih =>
    obtain ⟨he, hr⟩ := List.forall_mem_cons.1 h
    have hne : name ≠ e.1 := fun heq => String.lt_irrefl _ (heq ▸ he)
    rw [insert, if_neg (String.lt_asymm he), if_neg hne, ih hr, List.cons_append]

/-- A name that comes before all others is not found. -/
theorem lookup_of_lt {name : String} {l : List (String × α)} (h : ∀ e ∈ l, name < e.1) :
    l.lookup name = none := by
  rw [List.lookup_eq_none_iff]
  intro e he
  exact bne_iff_ne.2 fun heq => String.lt_irrefl _ (heq ▸ h e he)

/-- A list in order whose values are each made into another or left out: under a name
there is what is made of the value under that name. -/
theorem lookup_filterMap (f : α → Option β) {l : List (String × α)} (h : Sorted l)
    (name : String) :
    (l.filterMap fun e => (f e.2).map (e.1, ·)).lookup name = (l.lookup name).bind f := by
  induction l with
  | nil => rfl
  | cons e r ih =>
    obtain ⟨hlt, hr⟩ := List.pairwise_cons.1 h
    rw [List.filterMap_cons, List.lookup_cons]
    by_cases hname : name = e.1
    · -- what is left out here does not come back, as no other entry has the name
      have hrest : (r.filterMap fun e => (f e.2).map (e.1, ·)).lookup name = none := by
        rw [ih hr, hname, lookup_of_lt hlt, Option.bind_none]
      rw [hname] at hrest ⊢
      cases hf : f e.2 with
      | none => simp [hf, hrest]
      | some y => simp [hf]
    · have hbeq : (name == e.1) = false := beq_eq_false_iff_ne.2 hname
      rw [hbeq]
      cases hf : f e.2 with
      | none => exact ih hr
      | some y =>
        simp only [Option.map_some, List.lookup_cons, hbeq]
        exact ih hr

/-! ## 2. Inserting and selecting -/

variable (selected : String → Bool) {name : String} {value : α}

/-- A selection that passes over the new name does not see that it was inserted: an entry
that it replaces has the same name, and was passed over too. -/
theorem filter_insert_of_not (h : selected name = false) (l : List (String × α)) :
    (insert name value l).filter (fun e => selected e.1) = l.filter fun e => selected e.1 := by
  induction l with
  | nil => simp [insert, h]
  | cons e r ih =>
    unfold insert
    split
    · rw [List.filter_cons_of_neg (by simp [h])]
    · split
      · next heq =>
        rw [List.filter_cons_of_neg (by simp [h]), List.filter_cons_of_neg (by simp [← heq, h])]
      · simp only [List.filter_cons, ih]

/-- A selection that finds nothing before finds the new entry alone. -/
theorem filter_insert_of_selected (h : selected name) {l : List (String × α)}
    (hnone : ∀ e ∈ l, selected e.1 = false) :
    (insert name value l).filter (fun e => selected e.1) = [(name, value)] := by
  induction l with
  | nil => simp [insert, h]
  | cons e r ih =>
    obtain ⟨he, hr⟩ := List.forall_mem_cons.1 hnone
    have hrest : r.filter (fun e => selected e.1) = [] := by
      rw [List.filter_eq_nil_iff]
      intro d hd
      simp [hr d hd]
    unfold insert
    split
    · rw [List.filter_cons_of_pos (by simpa using h), List.filter_cons_of_neg (by simp [he]),
        hrest]
    · split
      · rw [List.filter_cons_of_pos (by simpa using h), hrest]
      · rw [List.filter_cons_of_neg (by simp [he]), ih hr]

end Entries

/-! ## 3. Tables -/

/-- The table of a list in order has the entries of the list. -/
theorem Keyed.entries_ofList {α : Type} {l : List (String × α)} (h : Entries.Sorted l) :
    (Keyed.ofList l).entries = l := by
  induction l using List.reverseRecOn with
  | nil => rfl
  | append_singleton l e ih =>
    obtain ⟨hl, -, hlast⟩ := List.pairwise_append.1 h
    unfold Keyed.ofList at ih ⊢
    rw [List.foldl_append, List.foldl_cons, List.foldl_nil]
    show Entries.insert _ _ (Keyed.entries _) = _
    rw [ih hl]
    exact Entries.insert_of_lt fun d hd => hlast d hd e List.mem_cons_self

/-- Tables with the same entries, in whatever order they are met, are the same table. -/
theorem Keyed.ext_mem {α : Type} {t u : Keyed α} (h : ∀ e, e ∈ t.entries ↔ e ∈ u.entries) :
    t = u := by
  have hantisymm : Std.Antisymm fun a b : String × α => a.1 < b.1 :=
    ⟨fun _ _ hab hba => absurd hba (String.lt_asymm hab)⟩
  have hirrefl : Std.Irrefl fun a b : String × α => a.1 < b.1 :=
    ⟨fun _ => String.lt_irrefl _⟩
  exact Keyed.ext (t.sorted.eq_of_mem_iff u.sorted h)

end FlowTriad
