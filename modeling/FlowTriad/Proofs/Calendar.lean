/-
`Proofs/Calendar.lean` -- day numbers count days.

The number of a date is computed by one formula in cycles of four hundred years that begin in
March. What it is meant to be is a count: the days of all years from 1970 up to the date's,
the days of the months before it in its year, and the days before it in its month. This file
says that the formula is that count (`dayNumber_eq_count`).

The formula goes up by the days of a year from one first of January to the next, which is
where all the divisions are; they agree with the rule for leap years by arithmetic alone. Years
are then counted by induction, in both directions from 1970, and the twelve months are looked
at one by one.
-/
import FlowTriad.Calendar
import Mathlib.Algebra.BigOperators.Intervals
import Mathlib.Tactic.IntervalCases

set_option autoImplicit false

namespace FlowTriad.Date

open Finset

/-! ## 1. Counting -/

/-- The number of days of a year. -/
def daysInYear (year : ℤ) : ℕ :=
  if isLeapYear year then 366 else 365

/-- The days from the beginning of 1970 to the beginning of a year: those of the years from 1970
on, or less those of the years from 1969 back. -/
def daysToYear (year : ℤ) : ℤ :=
  ∑ k ∈ range (year - 1970).toNat, (daysInYear (1970 + k) : ℤ) -
    ∑ k ∈ range (1970 - year).toNat, (daysInYear (1969 - k) : ℤ)

/-- The days from the beginning of a year to the beginning of one of its months. -/
def daysToMonth (year : ℤ) (month : ℕ) : ℕ :=
  ∑ m ∈ Ico 1 month, daysInMonth year m

/-- The days from the beginning of 1970 to a date. -/
def count (d : Date) : ℤ :=
  daysToYear d.year + daysToMonth d.year d.month + (d.day - 1)

/-! ## 2. Years -/

theorem isLeapYear_iff {year : ℤ} :
    isLeapYear year ↔ year % 4 = 0 ∧ (year % 100 ≠ 0 ∨ year % 400 = 0) := by
  unfold isLeapYear
  simp

/-- From one first of January to the next, the number goes up by the days of the year. -/
theorem dayNumber_next_year (year : ℤ) :
    dayNumber ⟨year + 1, 1, 1⟩ = dayNumber ⟨year, 1, 1⟩ + daysInYear year := by
  unfold daysInYear dayNumber
  dsimp only
  by_cases hleap : isLeapYear year
  · have hyear := isLeapYear_iff.1 hleap
    rw [if_pos hleap]
    split_ifs <;> omega
  · have hyear := mt isLeapYear_iff.2 hleap
    rw [if_neg hleap]
    split_ifs <;> omega

theorem daysToYear_add (n : ℕ) :
    daysToYear (1970 + n) = ∑ k ∈ range n, (daysInYear (1970 + k) : ℤ) := by
  unfold daysToYear
  have hup : (1970 + (n : ℤ) - 1970).toNat = n := by omega
  have hdown : (1970 - (1970 + (n : ℤ))).toNat = 0 := by omega
  rw [hup, hdown, range_zero, sum_empty, sub_zero]

theorem daysToYear_sub (n : ℕ) :
    daysToYear (1970 - n) = -∑ k ∈ range n, (daysInYear (1969 - k) : ℤ) := by
  unfold daysToYear
  have hup : (1970 - (n : ℤ) - 1970).toNat = 0 := by omega
  have hdown : (1970 - (1970 - (n : ℤ))).toNat = n := by omega
  rw [hup, hdown, range_zero, sum_empty, zero_sub]

/-- **Years are counted** by the number of their first day. -/
theorem dayNumber_first (year : ℤ) : dayNumber ⟨year, 1, 1⟩ = daysToYear year := by
  -- upwards from 1970 each year adds its days, downwards it takes them away
  obtain ⟨n, rfl | rfl⟩ : ∃ n : ℕ, year = 1970 + n ∨ year = 1970 - n := by
    refine ⟨(year - 1970).natAbs, ?_⟩
    omega
  · rw [daysToYear_add]
    induction n with
    | zero => decide
    | succ n ih =>
      have hnext := dayNumber_next_year (1970 + n)
      rw [sum_range_succ, ← ih, ← hnext]
      push_cast
      rw [add_assoc]
  · rw [daysToYear_sub]
    induction n with
    | zero => decide
    | succ n ih =>
      have hnext := dayNumber_next_year (1969 - n)
      have hyear : (1969 : ℤ) - n + 1 = 1970 - n := by omega
      have hbefore : (1970 : ℤ) - (n + 1 : ℕ) = 1969 - n := by omega
      rw [hyear, ih] at hnext
      rw [sum_range_succ, hbefore]
      omega

/-! ## 3. Months -/

theorem daysToMonth_succ {year : ℤ} {month : ℕ} (h : 1 ≤ month) :
    daysToMonth year (month + 1) = daysToMonth year month + daysInMonth year month :=
  sum_Ico_succ_top h _

/-- From the first of a month to the first of the next, the number goes up by the days of the
month. -/
theorem dayNumber_next_month (year : ℤ) {month : ℕ} (h : 1 ≤ month) (hlt : month < 12) :
    dayNumber ⟨year, month + 1, 1⟩ = dayNumber ⟨year, month, 1⟩ + daysInMonth year month := by
  unfold dayNumber daysInMonth
  simp only [List.mem_cons, List.not_mem_nil, or_false]
  -- the lengths of months follow no rule, so they are looked at one by one; what a leap day
  -- adds to February, the cycles add in March
  by_cases hleap : isLeapYear year
  · have hyear := isLeapYear_iff.1 hleap
    rw [if_pos hleap]
    interval_cases month <;> split_ifs <;> omega
  · have hyear := mt isLeapYear_iff.2 hleap
    rw [if_neg hleap]
    interval_cases month <;> split_ifs <;> omega

/-- **Months are counted** from the first day of their year. -/
theorem dayNumber_first_of_month (year : ℤ) {month : ℕ} (h : 1 ≤ month) (hle : month ≤ 12) :
    dayNumber ⟨year, month, 1⟩ = daysToYear year + daysToMonth year month := by
  induction month, h using Nat.le_induction with
  | base =>
    rw [dayNumber_first, daysToMonth, Ico_self, sum_empty]
    simp
  | succ month h ih =>
    rw [dayNumber_next_month year h (by omega), ih (by omega), daysToMonth_succ h]
    push_cast
    rw [add_assoc]

/-- **Day numbers count days.** -/
theorem dayNumber_eq_count {d : Date} (h : d.Exists) : d.dayNumber = d.count := by
  obtain ⟨year, month, day⟩ := d
  obtain ⟨⟨hfirst, hlast⟩, -⟩ := h
  have hmonth := dayNumber_first_of_month year hfirst hlast
  -- within a month, a day is a day
  have hday : dayNumber ⟨year, month, day⟩ = dayNumber ⟨year, month, 1⟩ + (day - 1) := by
    unfold dayNumber
    dsimp only
    omega
  rw [hday, hmonth]
  rfl

end FlowTriad.Date
