/-
`Instant/ReportTime.lean` -- the start time of a generator's report.

The report says when it began in the form `Sat, 02 Nov 2024 16:07:01 GMT`. The text
is matched from left to right against a list of items, each of which takes what it
matches and hands on the rest; the first that does not match decides the error. Three
rules make the reader lenient where the form is strict.

* A space of the form matches any run of white space, also none.
* A number may be preceded by white space and have fewer digits than the form shows.
* Names of days and months match in either case of their letters.

A value that its field cannot have is refused where it is met; that the date exists,
and falls on the day of the week that was named, is looked at when the whole text
has matched.
-/
import FlowTriad.Fault
import FlowTriad.Instant
import FlowTriad.Text

set_option autoImplicit false

namespace FlowTriad

open Text

namespace ReportTime

/-- The three-letter names of the days, Sunday first. -/
def dayNames : List String := ["sun", "mon", "tue", "wed", "thu", "fri", "sat"]

/-- The three-letter names of the months. -/
def monthNames : List String :=
  ["jan", "feb", "mar", "apr", "may", "jun", "jul", "aug", "sep", "oct", "nov", "dec"]

/-- Matches a fixed text. One that is longer than what is left is reported as the end
of the text, whatever that is. -/
def literal (text : String) (cs : List Char) : Except StampFault (Unit × List Char) :=
  let l := text.toList
  if byteLength cs < byteLength l then .error .tooShort
  else if cs.take l.length = l then .ok ((), cs.drop l.length)
  else .error .mismatch

/-- Matches one of several three-letter names, and gives its place among them. -/
def name (names : List String) (cs : List Char) : Except StampFault (Nat × List Char) :=
  if byteLength cs < 3 then .error .tooShort
  else
    match names.idxOf? (String.ofList ((cs.take 3).map Char.toLower)) with
    | some i => .ok (i, cs.drop 3)
    | none => .error .mismatch

/-- Matches a run of digits, at most `most` where that is given. -/
def digits (most : Option Nat) (cs : List Char) : Except StampFault (Nat × List Char) :=
  let run := cs.takeWhile isDigit
  let taken := match most with
    | some n => run.take n
    | none => run
  if cs.isEmpty then .error .tooShort
  else if taken.isEmpty then .error .mismatch
  else .ok (decimalValue taken, cs.drop taken.length)

/-- Matches a number of one or two digits between two bounds, after white space. -/
def bounded (low high : Nat) (cs : List Char) : Except StampFault (Nat × List Char) := do
  let (n, r) ← digits (some 2) (trimStart cs)
  if low ≤ n ∧ n ≤ high then .ok (n, r) else .error .outOfRange

/-- Matches a year, after white space: up to four digits, or a sign and any number of
them. A year that 32 bits cannot hold is refused at once. -/
def year (cs : List Char) : Except StampFault (Int × List Char) := do
  let cs := trimStart cs
  let (y, r) ← match cs with
    | '-' :: r => (digits none r).map fun (n, r) => (-(n : Int), r)
    | '+' :: r => (digits none r).map fun (n, r) => ((n : Int), r)
    | r => (digits (some 4) r).map fun (n, r) => ((n : Int), r)
  if -2147483648 ≤ y ∧ y ≤ 2147483647 then .ok (y, r) else .error .outOfRange

/-- The fields of a start time. -/
structure Fields where
  weekday : Nat
  date : Date
  hour : Nat
  minute : Nat
  second : Nat
  deriving DecidableEq, Repr

/-- Matches the whole form. -/
def fields (cs : List Char) : Except StampFault Fields := do
  let (weekday, cs) ← name dayNames cs
  let ((), cs) ← literal "," cs
  let (day, cs) ← bounded 1 31 (trimStart cs)
  let (month, cs) ← name monthNames (trimStart cs)
  let (year, cs) ← year (trimStart cs)
  let (hour, cs) ← bounded 0 23 (trimStart cs)
  let ((), cs) ← literal ":" cs
  let (minute, cs) ← bounded 0 59 cs
  let ((), cs) ← literal ":" cs
  let (second, cs) ← bounded 0 60 cs
  let ((), cs) ← literal "GMT" (trimStart cs)
  if cs.isEmpty then .ok ⟨weekday, ⟨year, month + 1, day⟩, hour, minute, second⟩
  else .error .tooLong

/-- The instant of matched fields. The date must exist, lie inside the calendar, and
fall on the named day. -/
def Fields.instant (f : Fields) : Except StampFault Instant :=
  if f.date.Exists ∧ Date.firstYear ≤ f.date.year ∧ f.date.year ≤ Date.lastYear then
    if f.date.weekday = f.weekday then
      let leap := f.second = 60
      let time : Int := f.hour * 3600 + f.minute * 60 + (if leap then 59 else f.second)
      let nanos := if leap then nanosPerSecond else 0
      match Instant.ofParts? (f.date.dayNumber * 86400 + time) nanos with
      | some t => .ok t
      | none => .error .outOfRange
    else .error .impossible
  else .error .outOfRange

end ReportTime

/-- The instant that a report's start time denotes, white space at its ends aside. -/
def readReportTime (text : String) : Except StampFault Instant := do
  let f ← ReportTime.fields (trim text.toList)
  f.instant

end FlowTriad
