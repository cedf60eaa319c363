/-
`Proofs/Items.lean` -- lists that correspond item by item.

Most stages of a comparison make a list from a list, one item from one item. That is
`List.Forall₂` with a relation that says what is made of what, and the lemmas here are
what such stages have in common: they can be done one after the other, they can be done
at all when they can be done at each item, an order of the one list is an order of the other, and
a search through the one finds what the same search finds in the other.
-/
import Mathlib.Data.List.Forall2

set_option autoImplicit false

namespace FlowTriad

variable {α β γ : Type} {R : α → β → Prop}

/-- One relation along lists after another. -/
theorem forall₂_comp {S : β → γ → Prop} {T : α → γ → Prop} (h : ∀ a b c, R a b → S b c → T a c)
    {xs : List α} {ys : List β} {zs : List γ} (hxy : List.Forall₂ R xs ys)
    (hyz : List.Forall₂ S ys zs) : List.Forall₂ T xs zs := by
  induction hxy generalizing zs with
  | nil =>
    cases hyz
    exact .nil
  | cons hr _ ih =>
    cases hyz with
    | cons hs hyz => exact .cons (h _ _ _ hr hs) (ih hyz)

/-- Something corresponds to a list when something does to each of its items. -/
theorem exists_forall₂_iff {xs : List α} :
    (∃ ys, List.Forall₂ R xs ys) ↔ ∀ x ∈ xs, ∃ y, R x y := by
  induction xs with
  | nil =>
    constructor
    · intro _
      exact List.forall_mem_nil _
    · intro _
      exact ⟨[], .nil⟩
  | cons x xs ih =>
    rw [List.forall_mem_cons, ← ih]
    constructor
    · rintro ⟨ys, h⟩
      obtain ⟨y, ys', hy, hys, -⟩ := List.forall₂_cons_left_iff.1 h
      exact ⟨⟨y, hy⟩, ys', hys⟩
    · rintro ⟨⟨y, hy⟩, ys, hys⟩
      exact ⟨y :: ys, .cons hy hys⟩

/-- What corresponds to an item stands where the item stands. -/
theorem getElem?_of_forall₂ {xs : List α} {ys : List β} (h : List.Forall₂ R xs ys) {i : ℕ} {x : α}
    (hx : xs[i]? = some x) : ∃ y, ys[i]? = some y ∧ R x y := by
  induction h generalizing i with
  | nil => simp at hx
  | @cons a b _ _ hab _ ih =>
    cases i with
    | zero =>
      obtain rfl : a = x := by simpa using hx
      exact ⟨b, rfl, hab⟩
    | succ i => exact ih (by simpa using hx)

/-- Every item corresponds to one of the other list. -/
theorem exists_mem_of_forall₂ {xs : List α} {ys : List β} (h : List.Forall₂ R xs ys) {y : β}
    (hy : y ∈ ys) : ∃ x ∈ xs, R x y := by
  induction h with
  | nil => cases hy
  | @cons a b as _ hab _ ih =>
    rcases List.mem_cons.1 hy with rfl | hy
    · exact ⟨a, List.mem_cons_self, hab⟩
    · obtain ⟨x, hx, hxy⟩ := ih hy
      exact ⟨x, List.mem_cons_of_mem a hx, hxy⟩

/-- Lists that correspond are in order alike. -/
theorem pairwise_of_forall₂ {P : α → α → Prop} {Q : β → β → Prop}
    (hPQ : ∀ x x' y y', R x y → R x' y' → P x x' → Q y y') {xs : List α} {ys : List β}
    (h : List.Forall₂ R xs ys) (hxs : xs.Pairwise P) : ys.Pairwise Q := by
  induction h with
  | nil => exact List.Pairwise.nil
  | @cons x y xs ys hxy hrest ih =>
    obtain ⟨hfirst, hxs⟩ := List.pairwise_cons.1 hxs
    refine List.pairwise_cons.2 ⟨?_, ih hxs⟩
    intro y' hy'
    obtain ⟨x', hx', hxy'⟩ := exists_mem_of_forall₂ hrest hy'
    exact hPQ x x' y y' hxy hxy' (hfirst x' hx')

/-- A search finds the same in both, if it does in items that correspond. -/
theorem findSome?_eq_of_forall₂ {f : α → Option γ} {g : β → Option γ}
    (hfg : ∀ x y, R x y → f x = g y) {xs : List α} {ys : List β} (h : List.Forall₂ R xs ys) :
    xs.findSome? f = ys.findSome? g := by
  induction h with
  | nil => rfl
  | cons hr _ ih => rw [List.findSome?_cons, List.findSome?_cons, hfg _ _ hr, ih]

/-- A list that has an item with a property has a first one. -/
theorem exists_split_first {p : α → Prop} {xs : List α} (h : ∃ x ∈ xs, p x) :
    ∃ earlier x later, xs = earlier ++ x :: later ∧ (∀ y ∈ earlier, ¬ p y) ∧ p x := by
  induction xs with
  | nil =>
    obtain ⟨x, hx, -⟩ := h
    cases hx
  | cons x xs ih =>
    by_cases hp : p x
    · exact ⟨[], x, xs, rfl, List.forall_mem_nil _, hp⟩
    · rw [List.exists_mem_cons_iff] at h
      obtain ⟨earlier, y, later, rfl, hearlier, hy⟩ := ih (h.resolve_left hp)
      exact ⟨x :: earlier, y, later, rfl, List.forall_mem_cons.2 ⟨hp, hearlier⟩, hy⟩

end FlowTriad
