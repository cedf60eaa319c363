/-
`Instant/Stamp.lean` -- the timestamps of a line-delimited capture.

A stamp is a head (date and time to the second), a fraction of a second and an
offset from universal time. Collectors drop the zeros at the end of the fraction,
so it comes with any number of digits; it is first brought to exactly three, by
cutting off or by filling up with zeros, and the instant is read from that form.

The three steps are `Stamp.read` (the shape), `Stamp.normalize` (the fraction) and
`Stamp.instant` (the values). The shape decides between `notDateTime`, `noFraction`
and `noOffset`; only the values can be out of range.
-/
import FlowTriad.Fault
import FlowTriad.Instant
import FlowTriad.Text

set_option autoImplicit false

namespace FlowTriad

open Text

/-- A timestamp taken apart: its pieces as written. -/
structure Stamp where
  head : List Char
  fraction : List Char
  offset : List Char
  deriving DecidableEq, Repr

namespace Stamp

/-- Whether each character is what a pattern asks for: `d` is any digit, `T` what may
stand between a date and a time, and any other character itself. -/
def fits (pattern cs : List Char) : Bool :=
  pattern.length == cs.length &&
    (pattern.zip cs).all fun (p, c) =>
      if p = 'd' then isDigit c else if p = 'T' then c ∈ ['T', 't', ' '] else p == c

/-- Whether the text is a date and a time to the second. -/
def isHead (cs : List Char) : Bool :=
  fits "dddd-dd-ddTdd:dd:dd".toList cs

/-- Whether the text is an offset from universal time. -/
def isOffset (cs : List Char) : Bool :=
  cs == ['Z'] || cs == ['z'] || fits "+dd:dd".toList cs || fits "-dd:dd".toList cs

/-- Takes a text apart, white space at its ends aside. A text that is no date-time
even with its fraction or offset supplied is refused as such; a missing fraction is
named before a missing offset. -/
def read (text : List Char) : Except StampFault Stamp :=
  let cs := trim text
  let head := cs.take 19
  let rest := cs.drop 19
  let (fraction, offset) :=
    match rest with
    | '.' :: r => (r.takeWhile isDigit, r.dropWhile isDigit)
    | r => ([], r)
  if !isHead head || !(offset.isEmpty || isOffset offset) then .error .notDateTime
  else if fraction.isEmpty then
    if rest.head? = some '.' then .error .notDateTime else .error .noFraction
  else if offset.isEmpty then .error .noOffset
  else .ok ⟨head, fraction, offset⟩

/-- The number of fraction digits that are kept. -/
def fractionDigits : Nat := 3

/-- The stamp with its fraction cut off or filled up to three digits. -/
def normalize (s : Stamp) : Stamp :=
  { s with
    fraction :=
      s.fraction.take fractionDigits ++ List.replicate (fractionDigits - s.fraction.length) '0' }

/-- The stamp as text. -/
def written (s : Stamp) : List Char :=
  s.head ++ '.' :: s.fraction ++ s.offset

/-- The number that stands at a place of the text. -/
def field (cs : List Char) (start length : Nat) : Nat :=
  decimalValue ((cs.drop start).take length)

/-- The offset in seconds, if its hours are less than a day and its minutes less
than an hour. -/
def offsetSeconds? (cs : List Char) : Option Int :=
  match cs with
  | sign :: r =>
      if r.isEmpty then some 0
      else
        let hours := field r 0 2
        let minutes := field r 3 2
        if hours ≤ 23 ∧ minutes ≤ 59 then
          let s : Int := hours * 3600 + minutes * 60
          some (if sign = '-' then -s else s)
        else none
  | [] => none

/-- The instant that a normalized stamp denotes. Second 60 is a leap second in any
minute: second 59 with a second's worth of nanoseconds more. -/
def instant (s : Stamp) : Except StampFault Instant :=
  let date : Date := ⟨field s.head 0 4, field s.head 5 2, field s.head 8 2⟩
  let hour := field s.head 11 2
  let minute := field s.head 14 2
  let second := field s.head 17 2
  let nanos := decimalValue s.fraction * 1000000
  match offsetSeconds? s.offset with
  | none => .error .outOfRange
  | some offset =>
      if date.Exists ∧ hour ≤ 23 ∧ minute ≤ 59 ∧ second ≤ 60 then
        let leap := second = 60
        let time : Int := hour * 3600 + minute * 60 + (if leap then 59 else second)
        let found := Instant.ofParts? (date.dayNumber * 86400 + time - offset)
          (if leap then nanosPerSecond + nanos else nanos)
        match found with
        | some t => .ok t
        | none => .error .outOfRange
      else .error .outOfRange

end Stamp

/-- A timestamp with exactly three fraction digits, as text. -/
def normalizeFraction (text : String) : Except StampFault String :=
  (Stamp.read text.toList).map fun s => String.ofList s.normalize.written

/-- The instant that a timestamp denotes, to the millisecond. -/
def readStamp (text : String) : Except StampFault Instant := do
  let s ← Stamp.read text.toList
  s.normalize.instant

end FlowTriad
