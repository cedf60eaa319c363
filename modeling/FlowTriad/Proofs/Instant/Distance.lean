/-
`Proofs/Instant/Distance.lean` -- where distances disagree with the order.

Instants compare as pairs: first by their seconds, then by their nanoseconds. So a leap
second comes after the whole of second 59 and before the next minute, which is where it
belongs. `Instant.before` is the test that runs; `<` and `≤` are the same order in the
form that lemmas about orders are stated for.

A distance knows of a leap second only if the times of day say so. This file says
for which instants the two differ: of two instants after a common beginning, when is the
later one nearer to it (`nanosTo_lt_iff`), and when does an instant after the beginning
seem to lie before it (`nanosTo_neg_iff`).

There are four ways. In two of them a leap second is entered or left, in the other two
midnight is passed: a beginning in a leap second adds a second to every distance to a
later time of day, and at midnight there is no later one any more.
-/
import FlowTriad.Instant
import Mathlib.Order.Defs.PartialOrder
import Mathlib.Tactic.SplitIfs

set_option autoImplicit false

namespace FlowTriad.Instant

variable {e t u x y : Instant}

/-! ## 1. Instants in order -/

instance : PartialOrder Instant where
  le t u := t.seconds < u.seconds ∨ t.seconds = u.seconds ∧ t.nanos ≤ u.nanos
  lt t u := t.seconds < u.seconds ∨ t.seconds = u.seconds ∧ t.nanos < u.nanos
  le_refl t := .inr ⟨rfl, Nat.le_refl _⟩
  le_trans t u v htu huv := by omega
  lt_iff_le_not_ge t u := by omega
  le_antisymm t u htu hut := by
    have hseconds : t.seconds = u.seconds := by omega
    have hnanos : t.nanos = u.nanos := by omega
    obtain ⟨s, n, h⟩ := t
    cases hseconds
    cases hnanos
    rfl

theorem lt_iff : t < u ↔ t.seconds < u.seconds ∨ t.seconds = u.seconds ∧ t.nanos < u.nanos :=
  Iff.rfl

theorem le_iff : t ≤ u ↔ t.seconds < u.seconds ∨ t.seconds = u.seconds ∧ t.nanos ≤ u.nanos :=
  Iff.rfl

/-- The test that runs decides the order. -/
theorem before_iff_lt : t.before u ↔ t < u := by
  rw [lt_iff]
  simp [before]

theorem not_lt : ¬ t < u ↔ u ≤ t := by
  rw [lt_iff, le_iff]
  omega

/-! ## 2. The distance in one formula -/

/-- The second that a distance has more, or less, than its ends tell. -/
def leapBetween (t u : Instant) : Int :=
  if t.timeOfDay < u.timeOfDay then if t.isLeap then 1 else 0
  else if u.timeOfDay < t.timeOfDay then if u.isLeap then -1 else 0
  else 0

theorem nanosTo_eq (t u : Instant) :
    t.nanosTo u = (u.seconds - t.seconds + leapBetween t u) * nanosPerSecond +
      ((u.nanos : Int) - t.nanos) := by
  have hdays : (u.day - t.day) * 86400 + (u.timeOfDay - t.timeOfDay) = u.seconds - t.seconds := by
    unfold day timeOfDay
    omega
  show ((u.day - t.day) * 86400 + (u.timeOfDay - t.timeOfDay) + leapBetween t u) *
    nanosPerSecond + ((u.nanos : Int) - t.nanos) = _
  rw [hdays]

theorem isLeap_iff : t.isLeap ↔ nanosPerSecond ≤ t.nanos := by
  unfold isLeap
  rw [decide_eq_true_eq]

/-- From inside of a leap second, every later time of day is a second further away. -/
theorem leapBetween_of_leap (h : t.isLeap) :
    leapBetween t u = if t.timeOfDay < u.timeOfDay then 1
      else if u.isLeap ∧ u.timeOfDay < t.timeOfDay then -1 else 0 := by
  unfold leapBetween
  rw [if_pos h]
  by_cases hlt : t.timeOfDay < u.timeOfDay
  · rw [if_pos hlt, if_pos hlt]
  · rw [if_neg hlt, if_neg hlt]
    by_cases hgt : u.timeOfDay < t.timeOfDay
    · simp [hgt]
    · simp [hgt]

/-- Which of two instants is nearer to a third is told by the seconds between them, and by the
leap seconds on the way to either. -/
theorem nanosTo_lt_iff_counts {n : Int} (hsecond : y.seconds = x.seconds + n) :
    e.nanosTo y < e.nanosTo x ↔
      (n + leapBetween e y - leapBetween e x) * nanosPerSecond + y.nanos < x.nanos := by
  rw [nanosTo_eq, nanosTo_eq, hsecond]
  simp only [nanosPerSecond]
  omega

/-! ## 3. The later one nearer -/

/-- How an instant `y`, which is not before `x`, can be nearer than `x` to an instant `e`. -/
inductive Overtaken (e x y : Instant) : Prop
  /-- `y` is in the leap second that follows on `x`, and the leap second is left out. -/
  | intoLeap (hsecond : y.seconds = x.seconds) (hx : ¬ x.isLeap) (hy : y.isLeap)
      (hday : y.timeOfDay < e.timeOfDay) (hnanos : y.nanos < x.nanos + nanosPerSecond)
  /-- `y` is in the second after the leap second that `x` is in, which is not counted on from
  there. -/
  | outOfLeap (hsecond : y.seconds = x.seconds + 1) (hx : x.isLeap)
      (hday : e.timeOfDay ≤ x.timeOfDay)
      (he : e.isLeap → e.timeOfDay < x.timeOfDay ∧ x.timeOfDay ≠ 86399 ∨ e.timeOfDay = 86399)
      (hnanos : y.nanos + nanosPerSecond < x.nanos)
  /-- Midnight is between `x` and `y`, and what the leap second of `e` adds ends there. -/
  | pastMidnight (he : e.isLeap) (hday : e.timeOfDay < 86399) (hlast : x.timeOfDay = 86399)
      (hsecond : y.seconds = x.seconds + 1) (hnanos : y.nanos < x.nanos)
  /-- The same, where `x` is in a leap second besides, and so a second more is missing. -/
  | pastMidnightLeap (he : e.isLeap) (hday : e.timeOfDay < 86399) (hlast : x.timeOfDay = 86399)
      (hx : x.isLeap) (hsecond : y.seconds = x.seconds + 2)
      (hnanos : y.nanos + nanosPerSecond < x.nanos)

/-- What is known of a time of day. A leap second is at the end of a minute, so no other
follows on it. -/
theorem timeOfDay_spec (t : Instant) :
    0 ≤ t.timeOfDay ∧ t.timeOfDay < 86400 ∧ t.nanos < 2 * nanosPerSecond ∧
      (nanosPerSecond ≤ t.nanos → t.timeOfDay % 60 = 59) := by
  have hvalid := t.valid
  unfold Valid at hvalid
  unfold timeOfDay
  omega

theorem timeOfDay_of_later {n : Int} (h : y.seconds = x.seconds + n) :
    y.timeOfDay = (x.timeOfDay + n) % 86400 := by
  unfold timeOfDay
  omega

/-- Within a second, a leap second that is entered can be left out. -/
theorem nanosTo_lt_of_same (hsecond : y.seconds = x.seconds) (hnanos : x.nanos ≤ y.nanos) :
    e.nanosTo y < e.nanosTo x ↔
      ¬ x.isLeap ∧ y.isLeap ∧ y.timeOfDay < e.timeOfDay ∧ y.nanos < x.nanos + nanosPerSecond := by
  have hday : y.timeOfDay = x.timeOfDay := by
    unfold timeOfDay
    rw [hsecond]
  have hxn := x.valid.1
  have hyn := y.valid.1
  rw [nanosTo_lt_iff_counts (hsecond.trans (Int.add_zero _).symm)]
  unfold leapBetween
  rw [hday]
  simp only [isLeap_iff, nanosPerSecond] at *
  split_ifs <;> omega

/-- From a second to the next, a leap second can be left, and midnight passed. Over a whole
second it needs both. -/
theorem nanosTo_lt_of_near {n : Int} (hn : n = 1 ∨ n = 2) (hsecond : y.seconds = x.seconds + n) :
    e.nanosTo y < e.nanosTo x ↔
      n = 1 ∧ x.isLeap ∧ e.timeOfDay ≤ x.timeOfDay ∧
        (e.isLeap → e.timeOfDay < x.timeOfDay ∧ x.timeOfDay ≠ 86399 ∨ e.timeOfDay = 86399) ∧
        y.nanos + nanosPerSecond < x.nanos ∨
      e.isLeap ∧ e.timeOfDay < 86399 ∧ x.timeOfDay = 86399 ∧
        (n = 1 ∧ y.nanos < x.nanos ∨ n = 2 ∧ x.isLeap ∧ y.nanos + nanosPerSecond < x.nanos) := by
  have hday := timeOfDay_of_later hsecond
  have he := timeOfDay_spec e
  have hx := timeOfDay_spec x
  have hy := timeOfDay_spec y
  rw [nanosTo_lt_iff_counts hsecond]
  unfold leapBetween
  simp only [isLeap_iff, nanosPerSecond] at *
  -- what is left is a question about three times of day and three fractions of a second
  generalize e.timeOfDay = te at *
  generalize x.timeOfDay = tx at *
  generalize y.timeOfDay = ty at *
  obtain rfl | rfl := hn
  all_goals split_ifs <;> omega

theorem nanosTo_lt_of_next (hsecond : y.seconds = x.seconds + 1) :
    e.nanosTo y < e.nanosTo x ↔
      x.isLeap ∧ e.timeOfDay ≤ x.timeOfDay ∧
        (e.isLeap → e.timeOfDay < x.timeOfDay ∧ x.timeOfDay ≠ 86399 ∨ e.timeOfDay = 86399) ∧
        y.nanos + nanosPerSecond < x.nanos ∨
      e.isLeap ∧ e.timeOfDay < 86399 ∧ x.timeOfDay = 86399 ∧ y.nanos < x.nanos := by
  simpa using nanosTo_lt_of_near (.inl rfl) hsecond

theorem nanosTo_lt_of_next_next (hsecond : y.seconds = x.seconds + 2) :
    e.nanosTo y < e.nanosTo x ↔
      e.isLeap ∧ e.timeOfDay < 86399 ∧ x.timeOfDay = 86399 ∧ x.isLeap ∧
        y.nanos + nanosPerSecond < x.nanos := by
  simpa using nanosTo_lt_of_near (.inr rfl) hsecond

/-- Over more than that, nothing makes the later one nearer. -/
theorem nanosTo_le_of_later (hsecond : x.seconds + 3 ≤ y.seconds) :
    e.nanosTo x ≤ e.nanosTo y := by
  have hxn := x.valid.1
  have hyn := y.valid.1
  -- one second at most is gained and one lost, and that one only by a leap second's fraction
  have hx : leapBetween e x ≤ 1 := by
    unfold leapBetween
    split_ifs <;> omega
  have hy : 0 ≤ leapBetween e y ∨ leapBetween e y = -1 ∧ nanosPerSecond ≤ y.nanos := by
    unfold leapBetween
    simp only [isLeap_iff]
    split_ifs <;> omega
  rw [nanosTo_eq, nanosTo_eq]
  simp only [nanosPerSecond] at *
  omega

/-- **Where the later one is nearer.** -/
theorem nanosTo_lt_iff (h : x ≤ y) : e.nanosTo y < e.nanosTo x ↔ Overtaken e x y := by
  -- the cases are told apart by how many seconds there are between the two
  obtain hlt | ⟨heq, hnanos⟩ := le_iff.1 h
  · obtain hnext | hnext | hlater : y.seconds = x.seconds + 1 ∨ y.seconds = x.seconds + 2 ∨
        x.seconds + 3 ≤ y.seconds := by omega
    · rw [nanosTo_lt_of_next hnext]
      constructor
      · rintro (⟨hx, hday, he, hnanos⟩ | ⟨he, hday, hlast, hnanos⟩)
        · exact .outOfLeap hnext hx hday he hnanos
        · exact .pastMidnight he hday hlast hnext hnanos
      · intro hover
        cases hover with
        | intoLeap hsecond => omega
        | outOfLeap _ hx hday he hnanos => exact .inl ⟨hx, hday, he, hnanos⟩
        | pastMidnight he hday hlast _ hnanos => exact .inr ⟨he, hday, hlast, hnanos⟩
        | pastMidnightLeap _ _ _ _ hsecond => omega
    · rw [nanosTo_lt_of_next_next hnext]
      constructor
      · rintro ⟨he, hday, hlast, hx, hnanos⟩
        exact .pastMidnightLeap he hday hlast hx hnext hnanos
      · intro hover
        cases hover with
        | intoLeap hsecond => omega
        | outOfLeap hsecond => omega
        | pastMidnight _ _ _ hsecond => omega
        | pastMidnightLeap he hday hlast hx _ hnanos => exact ⟨he, hday, hlast, hx, hnanos⟩
    · constructor
      · intro hnearer
        exact absurd (nanosTo_le_of_later hlater) (Int.not_le.2 hnearer)
      · intro hover
        cases hover <;> omega
  · rw [nanosTo_lt_of_same heq.symm hnanos]
    constructor
    · rintro ⟨hx, hy, hday, hnanos⟩
      exact .intoLeap heq.symm hx hy hday hnanos
    · intro hover
      cases hover with
      | intoLeap _ hx hy hday hnanos => exact ⟨hx, hy, hday, hnanos⟩
      | outOfLeap hsecond => omega
      | pastMidnight _ _ _ hsecond => omega
      | pastMidnightLeap _ _ _ _ hsecond => omega

/-! ## 4. Before the beginning -/

/-- How an instant `x`, which is not before `e`, can seem to lie before it: `e` is in the leap
second that ends the day, and `x` is in the next second at a smaller fraction. -/
structure SeemsBefore (x e : Instant) : Prop where
  leap : e.isLeap
  last : e.timeOfDay = 86399
  next : x.seconds = e.seconds + 1
  nanos : x.nanos + nanosPerSecond < e.nanos

theorem nanosTo_self (t : Instant) : t.nanosTo t = 0 := by
  rw [nanosTo_eq]
  unfold leapBetween
  simp

/-- An instant is at distance zero from itself, as a number and as a double. -/
theorem secondsTo_self (t : Instant) : t.secondsTo t = 0.0 := by
  unfold secondsTo
  rw [nanosTo_self]
  decide

/-- **Where a distance is negative.** -/
theorem nanosTo_neg_iff (h : e ≤ x) : e.nanosTo x < 0 ↔ SeemsBefore x e := by
  -- `x` seems to lie before `e` when it is nearer to `e` than `e` is
  rw [← nanosTo_self e, nanosTo_lt_iff h]
  constructor
  · intro hover
    cases hover with
    | intoLeap hsecond _ _ hday =>
      unfold timeOfDay at hday
      omega
    | outOfLeap hsecond hx hday he hnanos =>
      obtain ⟨hlt, -⟩ | hlast := he hx
      · omega
      · exact ⟨hx, hlast, hsecond, hnanos⟩
    | pastMidnight _ hday hlast => omega
    | pastMidnightLeap _ hday hlast => omega
  · rintro ⟨hleap, hlast, hnext, hnanos⟩
    exact .outOfLeap hnext hleap (Int.le_refl _) (fun _ => .inr hlast) hnanos

/-- It is never negative by a second. -/
theorem neg_second_lt_nanosTo (h : e ≤ x) : -(nanosPerSecond : Int) < e.nanosTo x := by
  by_cases hneg : e.nanosTo x < 0
  · obtain ⟨hleap, hlast, hnext, hnanos⟩ := (nanosTo_neg_iff h).1 hneg
    have hen := e.valid.1
    have hxl : ¬ x.isLeap := by
      rw [isLeap_iff]
      omega
    have hday : ¬ e.timeOfDay < x.timeOfDay := by
      have hxd := timeOfDay_spec x
      omega
    rw [nanosTo_eq, leapBetween_of_leap hleap, if_neg hday, if_neg (fun hx => hxl hx.1)]
    simp only [nanosPerSecond] at *
    omega
  · simp only [nanosPerSecond]
    omega

end FlowTriad.Instant
