/-
`Proofs/Variable/Bounds.lean` -- the ranges that the points of a variable take up.

The bounds are found in one pass over all points: a range begins as the first number and
is widened to each of the others. After every step it is the closest range around the
numbers so far (`Range.Spans.widen`), and so it is after the last (`Range.Spans.foldl`).
Series without points do not take part, and without any point there are no bounds.

All this is for numbers. What is no number is passed over by a range, and would not lie
within it.
-/
import FlowTriad.Proofs.Double.Finite
import FlowTriad.Variable.Resolution

set_option autoImplicit false

namespace FlowTriad

open Double

variable {a b x : Float} {p q : ℚ} {r : Range} {xs ys : List Float}

/-! ## 1. The lesser and the greater -/

/-- What has a place in the order is a number. -/
theorem isNaN_eq_false (h : HasRank a p) : a.isNaN = false := by
  obtain ⟨s, x, hranks, -⟩ := h
  show a.toModel.unpack.isNaN = false
  generalize a.toModel.unpack = u at hranks
  cases hranks with
  | value hdenotes => cases hdenotes <;> rfl
  | infinity => rfl

/-- Of two numbers, the lesser. -/
theorem Double.HasValue.lesser (ha : HasValue a p) (hb : HasValue b q) :
    HasValue (lesser a b) (min p q) := by
  unfold FlowTriad.lesser
  rw [isNaN_eq_false ha.hasRank, Bool.false_or]
  split
  · next hlt =>
    rw [decide_eq_true_eq, hb.lt_iff ha] at hlt
    rwa [min_eq_right hlt.le]
  · next hnot =>
    rw [decide_eq_true_eq, hb.lt_iff ha] at hnot
    rwa [min_eq_left (not_lt.1 hnot)]

/-- Of two numbers, the greater. -/
theorem Double.HasValue.greater (ha : HasValue a p) (hb : HasValue b q) :
    HasValue (greater a b) (max p q) := by
  unfold FlowTriad.greater
  rw [isNaN_eq_false ha.hasRank, Bool.false_or]
  split
  · next hlt =>
    rw [decide_eq_true_eq, ha.lt_iff hb] at hlt
    rwa [max_eq_right hlt.le]
  · next hnot =>
    rw [decide_eq_true_eq, ha.lt_iff hb] at hnot
    rwa [max_eq_left (not_lt.1 hnot)]

/-- They are one of the two as it stands, and not only one that compares equal. -/
theorem lesser_mem (ha : a ∈ xs) : lesser a b ∈ xs ++ [b] := by
  unfold lesser
  split
  · exact List.mem_append_right _ (List.mem_singleton.2 rfl)
  · exact List.mem_append_left _ ha

theorem greater_mem (ha : a ∈ xs) : greater a b ∈ xs ++ [b] := by
  unfold greater
  split
  · exact List.mem_append_right _ (List.mem_singleton.2 rfl)
  · exact List.mem_append_left _ ha

/-! ## 2. The closest range -/

/-- **The closest range** around some numbers: its ends are among them, and all of them lie
within. -/
structure Range.Spans (r : Range) (xs : List Float) : Prop where
  lower_mem : r.1 ∈ xs
  upper_mem : r.2 ∈ xs
  within : ∀ x ∈ xs, r.1 ≤ x ∧ x ≤ r.2

/-- The range of one number. -/
theorem Range.spans_singleton (h : HasValue x p) : Range.Spans (x, x) [x] where
  lower_mem := List.mem_singleton.2 rfl
  upper_mem := List.mem_singleton.2 rfl
  within y hy := by
    obtain rfl := List.mem_singleton.1 hy
    exact ⟨(h.le_iff h).2 le_rfl, (h.le_iff h).2 le_rfl⟩

/-- **One step.** Widened to a number, the closest range around some numbers is the closest
around them and that one. -/
theorem Range.Spans.widen (h : r.Spans xs) (hxs : ∀ y ∈ xs, ∃ p, HasValue y p)
    (hx : HasValue x q) : (r.widen x).Spans (xs ++ [x]) := by
  obtain ⟨l, hl⟩ := hxs r.1 h.lower_mem
  obtain ⟨u, hu⟩ := hxs r.2 h.upper_mem
  have hlower : HasValue (r.widen x).1 (min l q) := hl.lesser hx
  have hupper : HasValue (r.widen x).2 (max u q) := hu.greater hx
  refine ⟨lesser_mem h.lower_mem, greater_mem h.upper_mem, ?_⟩
  intro y hy
  rcases List.mem_append.1 hy with hold | hnew
  · -- an end that moves does so away from what was within
    obtain ⟨p, hp⟩ := hxs y hold
    rcases h.within y hold with ⟨hley, hyle⟩
    rw [hl.le_iff hp] at hley
    rw [hp.le_iff hu] at hyle
    exact ⟨(hlower.le_iff hp).2 (min_le_of_left_le hley),
      (hp.le_iff hupper).2 (le_max_of_le_left hyle)⟩
  · obtain rfl := List.mem_singleton.1 hnew
    exact ⟨(hlower.le_iff hx).2 (min_le_right l q), (hx.le_iff hupper).2 (le_max_right u q)⟩

/-- **All steps.** -/
theorem Range.Spans.foldl (h : r.Spans xs) (hfinite : ∀ y ∈ xs ++ ys, ∃ p, HasValue y p) :
    (ys.foldl Range.widen r).Spans (xs ++ ys) := by
  induction ys generalizing r xs with
  | nil =>
    rw [List.append_nil]
    exact h
  | cons y ys ih =>
    obtain ⟨q, hy⟩ := hfinite y (List.mem_append_right _ List.mem_cons_self)
    have hstep := h.widen (fun z hz => hfinite z (List.mem_append_left _ hz)) hy
    rw [List.append_cons] at hfinite ⊢
    exact ih hstep hfinite

/-! ## 3. The bounds of a variable -/

namespace ResolvedVariable

variable {v : ResolvedVariable} {ts : Range} {values : Range}

/-- All points of a variable, series by series. -/
def points (v : ResolvedVariable) : List Point :=
  v.series.flatMap (·.points)

theorem points_eq_nil : v.points = [] ↔ ∀ s ∈ v.series, s.points = [] :=
  List.flatMap_eq_nil_iff

/-- **No bounds**: no point. -/
theorem bounds?_eq_none : v.bounds? = none ↔ v.points = [] := by
  show (match v.points with | [] => none | (t, x) :: ps => some _) = none ↔ _
  cases v.points with
  | nil => exact iff_of_true rfl rfl
  | cons p ps => exact iff_of_false (Option.some_ne_none _) (List.cons_ne_nil _ _)

/-- Times and values are bounded in the same pass, and independently. -/
theorem foldl_widen_both (ps : List Point) (ts xs : Range) :
    ps.foldl (fun (ts, xs) (t, x) => (Range.widen ts t, Range.widen xs x)) (ts, xs) =
      ((ps.map Prod.fst).foldl Range.widen ts, (ps.map Prod.snd).foldl Range.widen xs) := by
  induction ps generalizing ts xs with
  | nil => rfl
  | cons p ps ih => exact ih (ts.widen p.1) (xs.widen p.2)

/-- **The bounds** are the closest ranges around the times and around the values. -/
theorem spans_of_bounds? (htimes : ∀ t ∈ v.points.map Prod.fst, ∃ p, HasValue t p)
    (hvalues : ∀ x ∈ v.points.map Prod.snd, ∃ p, HasValue x p)
    (h : v.bounds? = some (ts, values)) :
    ts.Spans (v.points.map Prod.fst) ∧ values.Spans (v.points.map Prod.snd) := by
  change (match v.points with | [] => none | (t, x) :: ps => some _) = _ at h
  generalize v.points = points at *
  cases points with
  | nil => exact absurd h.symm (Option.some_ne_none _)
  | cons p ps =>
    have hboth := Option.some.inj h
    rw [foldl_widen_both] at hboth
    obtain ⟨rfl, rfl⟩ := Prod.mk.inj hboth
    obtain ⟨t, ht⟩ := htimes p.1 List.mem_cons_self
    obtain ⟨x, hx⟩ := hvalues p.2 List.mem_cons_self
    exact ⟨(Range.spans_singleton ht).foldl htimes, (Range.spans_singleton hx).foldl hvalues⟩

end ResolvedVariable

end FlowTriad
