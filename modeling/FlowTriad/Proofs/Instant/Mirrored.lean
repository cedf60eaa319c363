/-
`Proofs/Instant/Mirrored.lean` -- the way back.

Leap seconds or not, it is as far from one instant to another as it is back: what decides
whether a leap second counts is which end lies later in the day, and swapping the ends
swaps that as well (`nanosTo_swap`). Making the distance a double and dividing it keep the
sign apart, so the seconds of the way back are those of the way out with the other sign.

There is one exception, and it comes from the count in between. Signed numbers of 64 bits
reach one further down than up. A distance of just `2 ^ 63` nanoseconds is counted in
nanoseconds when it leads back, and in milliseconds when it leads out, so one way is 776
microseconds longer than the other (`secondsTo_swap_iff`).
-/
import FlowTriad.Proofs.Instant.Seconds

set_option autoImplicit false

namespace FlowTriad

open Double

/-! ## 1. The distance back -/

namespace Instant

theorem leapBetween_swap (t u : Instant) : leapBetween u t = -leapBetween t u := by
  unfold leapBetween
  rcases lt_trichotomy t.timeOfDay u.timeOfDay with h | h | h
  · rw [if_neg h.not_gt, if_pos h, if_pos h]
    split_ifs <;> rfl
  · rw [h, if_neg (lt_irrefl _), if_neg (lt_irrefl _), if_neg (lt_irrefl _), if_neg (lt_irrefl _),
      neg_zero]
  · rw [if_pos h, if_neg h.not_gt, if_pos h]
    split_ifs <;> rfl

/-- **It is as far back.** -/
theorem nanosTo_swap (t u : Instant) : u.nanosTo t = -t.nanosTo u := by
  rw [nanosTo_eq, nanosTo_eq, leapBetween_swap]
  ring

end Instant

/-! ## 2. The count back -/

/-- A count and its opposite are rounded alike. -/
theorem countValue_neg (d : ℚ) (n : ℤ) : countValue d (-n) = -countValue d n := by
  unfold countValue
  rw [Int.cast_neg, rounded_neg, neg_div, rounded_neg]

theorem fits_neg_iff {n : ℤ} (h : |n| ≠ 2 ^ 63) : Whole.fits (-n) ↔ Whole.fits n := by
  have hneg : n ≠ -2 ^ 63 := by
    rintro rfl
    exact h (by norm_num)
  have hpos : n ≠ 2 ^ 63 := by
    rintro rfl
    exact h (by norm_num)
  rw [fits_iff, fits_iff]
  simp only [Whole.least, Whole.greatest]
  omega

/-- So are seconds, if both are counted in the same way. -/
theorem secondsValue_neg {n : ℤ} (h : |n| ≠ 2 ^ 63) : secondsValue (-n) = -secondsValue n := by
  unfold secondsValue
  by_cases hfits : Whole.fits n
  · rw [if_pos ((fits_neg_iff h).2 hfits), if_pos hfits]
    exact countValue_neg _ _
  · rw [if_neg ((fits_neg_iff h).not.2 hfits), if_neg hfits, Int.neg_tdiv]
    exact countValue_neg _ _

/-- At the limit they are not: the milliseconds leave 775808 nanoseconds out. -/
theorem countValue_limit_lt :
    countValue 1000 9223372036854 < countValue 1000000000 9223372036854775808 := by
  have hmillis := hasValue_millis (n := 9223372036854) (by decide)
  have hnanos := hasValue_nanos (n := 9223372036854775808) (by decide)
  exact (hmillis.lt_iff hnanos).1 (by decide)

theorem secondsValue_limit_ne : secondsValue (-2 ^ 63) ≠ -secondsValue (2 ^ 63) := by
  have hback : secondsValue (-2 ^ 63) = -countValue 1000000000 9223372036854775808 := by
    rw [← countValue_neg]
    rfl
  have hout : secondsValue (2 ^ 63) = countValue 1000 9223372036854 := rfl
  rw [hback, hout]
  intro heq
  exact countValue_limit_lt.ne (neg_inj.1 heq).symm

/-- **Seconds are mirrored**, but for a distance of just `2 ^ 63` nanoseconds. -/
theorem secondsValue_neg_iff {n : ℤ} : secondsValue (-n) = -secondsValue n ↔ |n| ≠ 2 ^ 63 := by
  constructor
  · intro heq hlimit
    -- either of the two ends of the range is the other one's opposite
    rcases (abs_eq (by norm_num)).1 hlimit with h | h
    · rw [h] at heq
      exact secondsValue_limit_ne heq
    · rw [h, neg_neg] at heq
      apply secondsValue_limit_ne
      rw [heq, neg_neg]
  · intro h
    exact secondsValue_neg h

/-! ## 3. The seconds back -/

/-- **Seconds have a sign.** From an instant to itself there are none. From one to another
it is as far as back, with the other sign: in nanoseconds always, and in seconds unless the
distance is just `2 ^ 63` nanoseconds. -/
theorem secondsTo_swap_iff (t u : Instant) :
    t.secondsTo t = 0.0 ∧ u.nanosTo t = -t.nanosTo u ∧
      (u.secondsTo t == -t.secondsTo u ↔ |t.nanosTo u| ≠ 2 ^ 63) := by
  refine ⟨Instant.secondsTo_self t, Instant.nanosTo_swap t u, ?_⟩
  have hback := hasValue_secondsTo u t
  have hout : HasValue (-t.secondsTo u) (-secondsValue (t.nanosTo u)) :=
    (hasValue_secondsTo t u).neg
  rw [hback.beq_iff hout, Instant.nanosTo_swap, secondsValue_neg_iff]

/-- Two instants that are `2 ^ 63` nanoseconds apart. -/
def nearEnd : Instant :=
  ⟨1, 0, by decide⟩

def farEnd : Instant :=
  ⟨9223372037, 854775808, by decide⟩

/-- Between them it is not as far out as back, although it is in nanoseconds. -/
theorem secondsTo_swap_iff_limit :
    ¬ (farEnd.secondsTo nearEnd == -nearEnd.secondsTo farEnd) ∧
      nearEnd.secondsTo farEnd == 9223372036.854 ∧
      farEnd.secondsTo nearEnd == -9223372036.854775808 := by
  refine ⟨fun hswap => ?_, by decide, by decide⟩
  have hlimit : |nearEnd.nanosTo farEnd| = 2 ^ 63 := by decide
  exact (secondsTo_swap_iff _ _).2.2.1 hswap hlimit

end FlowTriad
