/-
`Calendar.lean` -- dates of the Gregorian calendar, counted in days.

A date is a year, a month and a day; `dayNumber` counts the days from 1970-01-01 to
it and `ofDayNumber` goes back. Both count in cycles of 400 years of 146097 days,
with years that begin on the first of March, so that a leap day is the last day of
its year and the lengths of the months before it follow one formula.

The calendar has an end: `firstYear` and `lastYear` bound what an instant can be.
-/

set_option autoImplicit false

namespace FlowTriad

/-- A calendar date, not necessarily one that exists. -/
structure Date where
  year : Int
  month : Nat
  day : Nat
  deriving DecidableEq, Repr

namespace Date

/-- The first and the last year that an instant may lie in. -/
def firstYear : Int := -262143

@[inherit_doc firstYear]
def lastYear : Int := 262142

/-- Whether a year has a leap day. -/
def isLeapYear (year : Int) : Bool :=
  year % 4 == 0 && (year % 100 != 0 || year % 400 == 0)

/-- The number of days of a month, which counts from 1. -/
def daysInMonth (year : Int) (month : Nat) : Nat :=
  if month = 2 then if isLeapYear year then 29 else 28
  else if month ∈ [4, 6, 9, 11] then 30
  else 31

/-- Whether the date exists. -/
def Exists (d : Date) : Prop :=
  (1 ≤ d.month ∧ d.month ≤ 12) ∧ 1 ≤ d.day ∧ d.day ≤ daysInMonth d.year d.month

instance (d : Date) : Decidable d.Exists := by
  unfold Exists; infer_instance

/-- Days from 1970-01-01 to the date. -/
def dayNumber (d : Date) : Int :=
  let y : Int := if d.month ≤ 2 then d.year - 1 else d.year
  let cycle := y / 400
  let yearOfCycle := y % 400
  let monthFromMarch : Int := (d.month + 9) % 12
  let dayOfYear := (153 * monthFromMarch + 2) / 5 + d.day - 1
  let dayOfCycle := 365 * yearOfCycle + yearOfCycle / 4 - yearOfCycle / 100 + dayOfYear
  146097 * cycle + dayOfCycle - 719468

/-- The date that lies a number of days after 1970-01-01. -/
def ofDayNumber (n : Int) : Date :=
  let z := n + 719468
  let cycle := z / 146097
  let dayOfCycle := z % 146097
  let yearOfCycle :=
    (dayOfCycle - dayOfCycle / 1460 + dayOfCycle / 36524 - dayOfCycle / 146096) / 365
  let dayOfYear := dayOfCycle - (365 * yearOfCycle + yearOfCycle / 4 - yearOfCycle / 100)
  let monthFromMarch := (5 * dayOfYear + 2) / 153
  let day := dayOfYear - (153 * monthFromMarch + 2) / 5 + 1
  let month := if monthFromMarch < 10 then monthFromMarch + 3 else monthFromMarch - 9
  ⟨400 * cycle + yearOfCycle + (if month ≤ 2 then 1 else 0), month.toNat, day.toNat⟩

/-- The day of the week, counted from Sunday as 0. -/
def weekday (d : Date) : Nat :=
  ((d.dayNumber + 4) % 7).toNat

end Date

end FlowTriad
