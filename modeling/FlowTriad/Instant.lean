/-
`Instant.lean` -- points in time, with leap seconds.

An instant is a whole number of seconds since 1970 and nanoseconds within that
second. A leap second has no second of its own in the count: it is written as
second 59 of its minute with a thousand million or more nanoseconds, so that
instants compare as pairs.

Two rules follow from that writing and are easy to get wrong.

* **Moving.** A leap second lasts a second of its own if the move starts inside it;
  a move over a leap second knows nothing about it.
* **Distance.** A leap second at either end is counted if the other end lies later
  in the day; what decides is the time of day, not the day.

The two are not inverse to each other, and neither agrees with the order at every
leap second.
-/
import FlowTriad.Calendar
import FlowTriad.Decimal.Parts

set_option autoImplicit false

namespace FlowTriad

/-- A thousand million, the nanoseconds of a second. -/
abbrev nanosPerSecond : Nat := 1000000000

/-- What a pair of numbers must satisfy to be an instant: less than two seconds of
nanoseconds, more than one only in second 59 of a minute, and a date inside the
calendar. -/
def Instant.Valid (seconds : Int) (nanos : Nat) : Prop :=
  nanos < 2 * nanosPerSecond ∧ (nanosPerSecond ≤ nanos → seconds % 60 = 59) ∧
    -8334601228800 ≤ seconds ∧ seconds ≤ 8210266876799

instance (seconds : Int) (nanos : Nat) : Decidable (Instant.Valid seconds nanos) := by
  unfold Instant.Valid; infer_instance

/-- A point in time. -/
structure Instant where
  /-- Whole seconds since the beginning of 1970. -/
  seconds : Int
  /-- Nanoseconds within the second; a thousand million or more in a leap second. -/
  nanos : Nat
  valid : Instant.Valid seconds nanos
  deriving DecidableEq, Repr

namespace Instant

/-- The instant with these seconds and nanoseconds, if there is one. -/
def ofParts? (seconds : Int) (nanos : Nat) : Option Instant :=
  if h : Valid seconds nanos then some ⟨seconds, nanos, h⟩ else none

/-- Whether the instant lies in a leap second. -/
def isLeap (t : Instant) : Bool :=
  nanosPerSecond ≤ t.nanos

/-- Whether one instant lies before another. -/
def before (t u : Instant) : Bool :=
  t.seconds < u.seconds || (t.seconds == u.seconds && t.nanos < u.nanos)

/-- The day the instant lies in, counted from 1970-01-01. -/
def day (t : Instant) : Int :=
  t.seconds / 86400

/-- The whole seconds since midnight. -/
def timeOfDay (t : Instant) : Int :=
  t.seconds % 86400

/-! ## 1. Moving -/

/-- The instant `n` nanoseconds later; `none` where that leaves the calendar.

A move that starts in a leap second and stays there moves the nanoseconds. One that
ends after it starts from the same fraction of second 59, one that goes back more
than a second from the same fraction of the next minute's first second: either way
the leap second lasts one second. -/
def add? (t : Instant) (n : Int) : Option Instant :=
  let whole := n.tdiv nanosPerSecond
  let fraction := n.tmod nanosPerSecond
  let moved : Int := t.nanos + fraction
  if t.isLeap && whole == 0 && moved < 2 * nanosPerSecond then ofParts? t.seconds moved.toNat
  else
    let seconds := if t.isLeap && whole < 0 then t.seconds + 1 else t.seconds
    let total : Int := (t.nanos % nanosPerSecond : Nat) + n
    ofParts? (seconds + total / nanosPerSecond) (total % nanosPerSecond).toNat

/-! ## 2. Distance -/

/-- The nanoseconds from `t` to `u`. Where the times of day differ, a leap second at
the earlier of them adds a second to the way. -/
def nanosTo (t u : Instant) : Int :=
  let leap : Int :=
    if t.timeOfDay < u.timeOfDay then if t.isLeap then 1 else 0
    else if u.timeOfDay < t.timeOfDay then if u.isLeap then -1 else 0
    else 0
  ((u.day - t.day) * 86400 + (u.timeOfDay - t.timeOfDay) + leap) * nanosPerSecond +
    ((u.nanos : Int) - t.nanos)

/-- The seconds from `t` to `u`. The distance is counted in nanoseconds where they fit
into 64 bits, else in whole milliseconds, what is left over being dropped; the count
is rounded to a double and then divided. -/
def secondsTo (t u : Instant) : Float :=
  let n := t.nanosTo u
  if Whole.fits n then Float.ofInt n / 1e9
  else Float.ofInt (n.tdiv 1000000) / 1e3

end Instant

/-! ## 3. The standard way to write an instant

A date, the letter `T`, a time, and the offset `+00:00`, since instants are in
universal time. Years from 0 to 9999 have four digits; others carry a sign and at
least four. The fraction has as many digits as it needs, in groups of three. -/

/-- A number with at least `width` digits. -/
def padded (width n : Nat) : String :=
  let ds := toString n
  String.ofList (List.replicate (width - ds.length) '0') ++ ds

namespace Instant

/-- The year as written. -/
def yearText (y : Int) : String :=
  if 0 ≤ y ∧ y ≤ 9999 then padded 4 y.toNat
  else (if y < 0 then "-" else "+") ++ padded 4 y.natAbs

/-- The fraction of a second as written: nothing, or a point and 3, 6 or 9 digits. -/
def fractionText (n : Nat) : String :=
  if n = 0 then ""
  else if n % 1000000 = 0 then "." ++ padded 3 (n / 1000000)
  else if n % 1000 = 0 then "." ++ padded 6 (n / 1000)
  else "." ++ padded 9 n

/-- The instant as text. A leap second is second 60. -/
def written (t : Instant) : String :=
  let d := Date.ofDayNumber t.day
  let s := t.timeOfDay.toNat
  yearText d.year ++ "-" ++ padded 2 d.month ++ "-" ++ padded 2 d.day ++ "T" ++
    padded 2 (s / 3600) ++ ":" ++ padded 2 (s / 60 % 60) ++ ":" ++
    padded 2 (s % 60 + if t.isLeap then 1 else 0) ++
    fractionText (t.nanos % nanosPerSecond) ++ "+00:00"

end Instant

end FlowTriad
