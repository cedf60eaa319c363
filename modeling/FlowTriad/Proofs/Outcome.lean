/-
`Proofs/Outcome.lean` -- when a chain of steps succeeds, and what it fails with.

Every stage of a comparison is a chain of steps that ends at the first one that
fails. Most properties of a stage speak of its successes, and a success is easy to
take apart: a chain succeeds exactly when each of its steps does. The lemmas here say
so for the four ways in which steps are chained: one after the other, with a result
made into another, with a defect located, and along a list.

A failure is that of one step, the first that fails. Along a list that is a search
(`refusal?_mapM`), and other chains are compared with searches too.
-/
import FlowTriad.Fault
import Mathlib.Data.List.Forall2

set_option autoImplicit false

namespace FlowTriad

variable {ε ε' α β γ : Type}

/-- What is a success has a result. -/
theorem exists_eq_ok {x : Except ε α} (h : x.isOk) : ∃ a, x = .ok a := by
  cases x with
  | error e => cases h
  | ok a => exact ⟨a, rfl⟩

/-- A result that another one has under a condition is the same result, unless the other
one exists and the condition fails. -/
theorem toOption_eq_iff {x y : Except ε α} {p : Prop}
    (h : ∀ a, x = .ok a ↔ y = .ok a ∧ p) : x.toOption = y.toOption ↔ (y.isOk → p) := by
  cases y with
  | error e =>
    cases x with
    | error e' => simp [Except.toOption, Except.isOk, Except.toBool]
    | ok a => cases ((h a).1 rfl).1
  | ok b =>
    constructor
    · intro heq _
      cases x with
      | error e' => cases heq
      | ok a => exact ((h a).1 rfl).2
    · intro hp
      rw [(h b).2 ⟨rfl, hp rfl⟩]

/-- Two steps succeed when the first does and the second does on its result. -/
theorem bind_eq_ok {x : Except ε α} {f : α → Except ε β} {b : β} :
    x >>= f = .ok b ↔ ∃ a, x = .ok a ∧ f a = .ok b := by
  cases x with
  | error e =>
    constructor
    · intro h
      cases h
    · rintro ⟨a, h, -⟩
      cases h
  | ok a =>
    constructor
    · intro h
      exact ⟨a, rfl, h⟩
    · rintro ⟨a', h, hf⟩
      cases h
      exact hf

theorem map_eq_ok {x : Except ε α} {f : α → β} {b : β} :
    x.map f = .ok b ↔ ∃ a, x = .ok a ∧ f a = b := by
  cases x with
  | error e => simp [Except.map]
  | ok a => simp [Except.map]

theorem mapError_eq_ok {x : Except ε α} {f : ε → ε'} {a : α} :
    x.mapError f = .ok a ↔ x = .ok a := by
  cases x with
  | error e => simp [Except.mapError]
  | ok a' => simp [Except.mapError]

/-- Where a defect is located does not matter to a success. -/
theorem located_eq_ok {origin : String} {place : Place} {r : Except Defect α} {a : α} :
    located origin place r = .ok a ↔ r = .ok a :=
  mapError_eq_ok

/-- **A step along a list** gives results when it gives one at every item. What it means to
give one is left open; a chain of two steps must give what they give one after the other. -/
theorem gives_mapM_iff {m : Type → Type} [Monad m] [LawfulMonad m]
    (gives : {γ : Type} → m γ → γ → Prop)
    (hpure : ∀ {γ : Type} {a b : γ}, gives (pure a : m γ) b ↔ a = b)
    (hbind : ∀ {γ δ : Type} {x : m γ} {f : γ → m δ} {b : δ},
      gives (x >>= f) b ↔ ∃ a, gives x a ∧ gives (f a) b)
    {f : α → m β} {xs : List α} {ys : List β} :
    gives (xs.mapM f) ys ↔ List.Forall₂ (fun x y => gives (f x) y) xs ys := by
  induction xs generalizing ys with
  | nil => rw [List.mapM_nil, hpure, List.forall₂_nil_left_iff, eq_comm]
  | cons x xs ih =>
    rw [List.mapM_cons, List.forall₂_cons_left_iff]
    simp only [hbind, hpure, ih, eq_comm (a := ys)]
    constructor
    · rintro ⟨y, hy, ys', hys, h⟩
      exact ⟨y, ys', hy, hys, h⟩
    · rintro ⟨y, ys', hy, hys, h⟩
      exact ⟨y, hy, ys', hys, h⟩

theorem mapM_eq_ok {f : α → Except ε β} {xs : List α} {ys : List β} :
    xs.mapM f = .ok ys ↔ List.Forall₂ (fun x y => f x = .ok y) xs ys :=
  gives_mapM_iff (m := Except ε) (fun x a => x = .ok a) (by simp [pure, Except.pure]) bind_eq_ok

theorem mapM_eq_some {f : α → Option β} {xs : List α} {ys : List β} :
    xs.mapM f = some ys ↔ List.Forall₂ (fun x y => f x = some y) xs ys :=
  gives_mapM_iff (fun x a => x = some a) Option.some_inj Option.bind_eq_some_iff

/-! ## Failures -/

/-- What a step fails with, if it does. -/
def refusal? : Except ε α → Option ε
  | .error e => some e
  | .ok _ => none

theorem refusal?_eq_some {x : Except ε α} {e : ε} : refusal? x = some e ↔ x = .error e := by
  cases x <;> simp [refusal?]

theorem refusal?_eq_none {x : Except ε α} : refusal? x = none ↔ ∃ a, x = .ok a := by
  cases x <;> simp [refusal?]

@[simp] theorem refusal?_map (x : Except ε α) (f : α → β) : refusal? (x.map f) = refusal? x := by
  cases x <;> rfl

theorem map_eq_error {x : Except ε α} {f : α → β} {e : ε} : x.map f = .error e ↔ x = .error e := by
  cases x with
  | error e' => simp [Except.map]
  | ok a => simp [Except.map]

/-- Two steps fail when the first does, or the second does on its result. -/
theorem bind_eq_error {x : Except ε α} {f : α → Except ε β} {e : ε} :
    x >>= f = .error e ↔ x = .error e ∨ ∃ a, x = .ok a ∧ f a = .error e := by
  cases x with
  | error e' =>
    constructor
    · intro h
      cases h
      exact .inl rfl
    · rintro (h | ⟨a, h, -⟩)
      · cases h
        rfl
      · cases h
  | ok a =>
    constructor
    · intro h
      exact .inr ⟨a, rfl, h⟩
    · rintro (h | ⟨a', h, hf⟩)
      · cases h
      · cases h
        exact hf

theorem mapError_eq_error {x : Except ε α} {f : ε → ε'} {e : ε'} :
    x.mapError f = .error e ↔ ∃ d, x = .error d ∧ e = f d := by
  cases x with
  | error d => simp [Except.mapError, eq_comm]
  | ok a => simp [Except.mapError]

theorem located_eq_error {origin : String} {place : Place} {r : Except Defect α} {f : Fault} :
    located origin place r = .error f ↔ ∃ d, r = .error d ∧ f = .input origin place d :=
  mapError_eq_error

/-- **Failures are searched for in the order of the steps.** Where the failure of one step
is found by a search through some places, and then that of the next by a search through
others, that of both is found by a search through all. -/
theorem refusal?_bind {x : Except ε α} {f : α → Except ε β} {g : γ → Option ε}
    {places places' : List γ} (hx : refusal? x = places.findSome? g)
    (hf : ∀ a, x = .ok a → refusal? (f a) = places'.findSome? g) :
    refusal? (x >>= f) = (places ++ places').findSome? g := by
  rw [List.findSome?_append, ← hx]
  cases x with
  | error e => rfl
  | ok a => exact hf a rfl

/-- A step along a list fails as it does at the first item at which it does. -/
theorem refusal?_mapM (f : α → Except ε β) (xs : List α) :
    refusal? (xs.mapM f) = xs.findSome? fun x => refusal? (f x) := by
  induction xs with
  | nil => rfl
  | cons x xs ih =>
    rw [List.mapM_cons, List.findSome?_cons, ← ih]
    cases hx : f x with
    | error e => rfl
    | ok y => cases xs.mapM f <;> rfl

/-- It fails at an item when it does there and succeeds at every item before. -/
theorem mapM_eq_error {f : α → Except ε β} {xs : List α} {e : ε} :
    xs.mapM f = .error e ↔
      ∃ earlier x later, xs = earlier ++ x :: later ∧ f x = .error e ∧
        ∀ y ∈ earlier, ∃ b, f y = .ok b := by
  rw [← refusal?_eq_some, refusal?_mapM, List.findSome?_eq_some_iff]
  simp only [refusal?_eq_some, refusal?_eq_none]

end FlowTriad
