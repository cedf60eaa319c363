/-
`Proofs/Instant/Moving.lean` -- how far an instant can be moved.

A move leaves the calendar when the second in which it ends lies behind the last one. A
move forward from a leap second starts from the same fraction of the second before, of
which the leap second is a second part, so the second in which it ends is counted alike
from both (`secondAfter`). That makes one condition for all instants
(`isSome_add?_iff`), and one that only gets harder to meet with the length of the move.

Where there is an end, it is the instant that is as far away as the move is long
(`add?_eq_some_iff`), so a longer move leads to no earlier one (`le_of_add?`).
-/
import FlowTriad.Proofs.Instant.Distance

set_option autoImplicit false

namespace FlowTriad.Instant

variable {t u : Instant} {m n : Int}

/-- The last second of the last day of the calendar. -/
def lastSecond : Int :=
  Date.dayNumber ⟨Date.lastYear, 12, 31⟩ * 86400 + 86399

theorem lastSecond_eq : lastSecond = 8210266876799 := by
  decide

/-- The second in which a move of `n` nanoseconds ends, of a leap second the one that it
belongs to. -/
def secondAfter (t : Instant) (n : Int) : Int :=
  t.seconds + ((t.nanos % nanosPerSecond : Nat) + n) / nanosPerSecond

theorem secondAfter_mono (t : Instant) (h : m ≤ n) : t.secondAfter m ≤ t.secondAfter n := by
  have hdiv : ((t.nanos % nanosPerSecond : Nat) + m) / (nanosPerSecond : Int) ≤
      ((t.nanos % nanosPerSecond : Nat) + n) / nanosPerSecond :=
    Int.ediv_le_ediv (by decide) (by omega)
  unfold secondAfter
  omega

/-- An instant that is not moved stays in the calendar. -/
theorem secondAfter_zero_le (t : Instant) : t.secondAfter 0 ≤ lastSecond := by
  have hlast := t.valid.2.2.2
  rw [lastSecond_eq]
  unfold secondAfter
  simp only [nanosPerSecond]
  omega

theorem isSome_ofParts? {seconds : Int} {nanos : Nat} :
    (ofParts? seconds nanos).isSome ↔ Valid seconds nanos := by
  unfold ofParts?
  by_cases h : Valid seconds nanos
  · simp [h]
  · simp [h]

/-- The parts of an instant make it, and no other. -/
theorem ofParts?_eq_some {seconds : Int} {nanos : Nat} :
    ofParts? seconds nanos = some u ↔ u.seconds = seconds ∧ u.nanos = nanos := by
  unfold ofParts?
  by_cases h : Valid seconds nanos
  · rw [dif_pos h, Option.some.injEq]
    constructor
    · rintro rfl
      exact ⟨rfl, rfl⟩
    · rintro ⟨rfl, rfl⟩
      rfl
  · rw [dif_neg h]
    constructor
    · intro hnone
      cases hnone
    · rintro ⟨rfl, rfl⟩
      exact absurd u.valid h

/-- **A move forward.** One that stays in a leap second moves the nanoseconds, and any other
leads to the second in which it ends. -/
theorem add?_of_nonneg (h : 0 ≤ n) :
    t.add? n =
      if t.isLeap ∧ t.nanos + n < 2 * nanosPerSecond then ofParts? t.seconds (t.nanos + n).toNat
      else ofParts? (t.secondAfter n)
        (((t.nanos % nanosPerSecond : Nat) + n) % nanosPerSecond).toNat := by
  -- a move forward has no fraction below zero, so both ways of dividing agree
  have hwhole : n.tdiv nanosPerSecond = n / nanosPerSecond := Int.tdiv_eq_ediv_of_nonneg h
  have hfraction : n.tmod nanosPerSecond = n % nanosPerSecond := Int.tmod_eq_emod_of_nonneg h
  have hforward : (t.isLeap && decide (n / (nanosPerSecond : Int) < 0)) = false := by
    rw [decide_eq_false (by simp only [nanosPerSecond]; omega), Bool.and_false]
  have hstays : (t.isLeap && n / (nanosPerSecond : Int) == 0 &&
      decide ((t.nanos : Int) + n % nanosPerSecond < 2 * nanosPerSecond)) ↔
        t.isLeap ∧ t.nanos + n < 2 * nanosPerSecond := by
    simp only [Bool.and_eq_true, beq_iff_eq, decide_eq_true_eq, isLeap_iff, nanosPerSecond]
    omega
  unfold add?
  simp only [hwhole, hfraction]
  by_cases hleap : t.isLeap ∧ t.nanos + n < 2 * nanosPerSecond
  · have hmod : n % nanosPerSecond = n := by
      have hnanos := isLeap_iff.1 hleap.1
      simp only [nanosPerSecond] at *
      omega
    rw [if_pos (hstays.2 hleap), if_pos hleap, hmod]
  · rw [if_neg fun h => hleap (hstays.1 h), if_neg hleap]
    simp only [hforward, Bool.false_eq_true, if_false]
    rfl

/-- **A move forward leads somewhere** when the second in which it ends is not behind the
last one. -/
theorem isSome_add?_iff (h : 0 ≤ n) : (t.add? n).isSome ↔ t.secondAfter n ≤ lastSecond := by
  obtain ⟨hnanos, hleap, hfirst, hlast⟩ := t.valid
  rw [add?_of_nonneg h, lastSecond_eq]
  unfold secondAfter
  by_cases hstays : t.isLeap ∧ t.nanos + n < 2 * nanosPerSecond
  · -- the move ends where it starts, in a second that is there
    have hn := isLeap_iff.1 hstays.1
    rw [if_pos hstays, isSome_ofParts?]
    unfold Valid
    simp only [nanosPerSecond] at *
    omega
  · rw [if_neg hstays, isSome_ofParts?]
    unfold Valid
    simp only [nanosPerSecond] at *
    omega

/-! ## Where a move leads -/

/-- The nanoseconds that pass from an instant to a later one, if the only leap second on the way
is the one that the first instant is in. -/
def passed (t u : Instant) : Int :=
  (u.seconds - t.seconds) * nanosPerSecond + ((u.nanos : Int) - t.nanos) +
    if t.isLeap ∧ t.seconds < u.seconds then nanosPerSecond else 0

/-- **A move forward leads** to the instant that is as far away, and into no other leap second
than the one that it starts in. -/
theorem add?_eq_some_iff (h : 0 ≤ n) :
    t.add? n = some u ↔ t.passed u = n ∧ (u.isLeap ↔ t.isLeap ∧ u.seconds = t.seconds) := by
  have htn := t.valid.1
  have hun := u.valid.1
  rw [add?_of_nonneg h]
  unfold passed
  by_cases hstays : t.isLeap ∧ t.nanos + n < 2 * nanosPerSecond
  · rw [if_pos hstays, ofParts?_eq_some]
    simp only [isLeap_iff, nanosPerSecond] at *
    split_ifs <;> omega
  · rw [if_neg hstays, ofParts?_eq_some]
    unfold secondAfter
    simp only [isLeap_iff, nanosPerSecond] at *
    split_ifs <;> omega

theorem add?_zero (t : Instant) : t.add? 0 = some t := by
  rw [add?_eq_some_iff (Int.le_refl 0)]
  unfold passed
  simp

/-- **A longer move** leads to no earlier instant. -/
theorem le_of_add? {v : Instant} (hm : 0 ≤ m) (hmn : m ≤ n) (hu : t.add? m = some u)
    (hv : t.add? n = some v) : u ≤ v := by
  obtain ⟨hpassed, hleap⟩ := (add?_eq_some_iff hm).1 hu
  obtain ⟨hpassed', hleap'⟩ := (add?_eq_some_iff (Int.le_trans hm hmn)).1 hv
  have hun := u.valid.1
  have hvn := v.valid.1
  have htn := t.valid.1
  rw [le_iff]
  unfold passed at hpassed hpassed'
  simp only [isLeap_iff, nanosPerSecond] at *
  split_ifs at hpassed hpassed' <;> omega

/-- A move forward does not lead back. -/
theorem le_add? (h : 0 ≤ n) (hu : t.add? n = some u) : t ≤ u :=
  le_of_add? (Int.le_refl 0) h t.add?_zero hu

end FlowTriad.Instant
