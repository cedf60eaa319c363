/-
`Decimal/Shortest.lean` -- the fewest decimal digits that read back as a double.

A positive double `m · 2 ^ q` is the nearest double of every real number in an
interval around it: half way to the neighbour above, and half way to the one
below, which is half as far when `m` is the least significand of its binade. The
ends belong to the interval iff `m` is even.

For `n = 1, 2, … 16` the candidates with `n` digits are the two neighbours of the
number on the decimal grid with that many digits. The first grid with a candidate
inside the interval wins, and of two candidates the nearer one. Where both are
equally near, the format decides. Seventeen digits always suffice: that grid is
finer than half the distance between two doubles, so there the nearest point is
taken without a test.
-/
import FlowTriad.Decimal.Parts

set_option autoImplicit false

namespace FlowTriad.Decimal

open Whole (tenPow twoPow)

/-- Which of two equally near decimals to take. -/
inductive Tie where
  /-- The larger one. -/
  | up
  /-- The one with the even last digit. -/
  | even
  deriving DecidableEq, Repr

/-- The whole number nearest to a fraction, by a rule for two that are equally near. -/
def Tie.round (tie : Tie) (r : Ratio) : Nat :=
  match tie with
  | up => r.roundUp
  | even => r.roundEven

/-- A positive decimal `digits · 10 ^ exponent`. -/
structure Scaled where
  digits : Nat
  exponent : Int
  deriving DecidableEq, Repr

/-- The number of decimal digits of a natural number; zero has one. -/
def digitCount (n : Nat) : Nat :=
  (Nat.toDigits 10 n).length

/-- The exponent `e` with `10 ^ (e - 1) ≤ r < 10 ^ e`, for a positive fraction `r`. -/
def Ratio.magnitude (r : Ratio) : Int :=
  if r.den ≤ r.num then digitCount (r.num / r.den)
  else
    let j := digitCount (r.den / r.num) - 1
    if r.den ≤ tenPow j * r.num then 1 - (j : Int) else -(j : Int)

/-- The real numbers that read back as one double: the ends, and whether they
belong to it. -/
structure Interval where
  low : Ratio
  high : Ratio
  closed : Bool

/-- The interval of `m · 2 ^ q`. All is said in quarters of the last place, the unit
in which both ends are whole. -/
def Interval.around (m : Nat) (q : Int) : Interval where
  low := .ofBinary (4 * m - (if m = twoPow 52 ∧ -1074 < q then 1 else 2)) (q - 2)
  high := .ofBinary (4 * m + 2) (q - 2)
  closed := m % 2 == 0

/-- Whether the decimal `a · 10 ^ k` lies in the interval. -/
def Interval.contains (i : Interval) (a : Nat) (k : Int) : Bool :=
  let low := i.low.shift (-k)
  let high := i.high.shift (-k)
  if i.closed then low.num ≤ a * low.den && a * high.den ≤ high.num
  else low.num < a * low.den && a * high.den < high.num

/-- The candidate of the grid `10 ^ k`, if it has one in the interval. -/
def candidate? (tie : Tie) (r : Ratio) (i : Interval) (k : Int) : Option Scaled :=
  let s := r.shift (-k)
  let a := s.num / s.den
  let rest := 2 * (s.num % s.den)
  let below := i.contains a k
  let above := i.contains (a + 1) k
  let belowNearer := rest < s.den || (rest == s.den && tie == .even && a % 2 == 0)
  if below && (belowNearer || !above) then some ⟨a, k⟩
  else if above then some ⟨a + 1, k⟩
  else none

/-- The decimal without the zeros at its end; `fuel` bounds their number. -/
def Scaled.trim (fuel : Nat) (s : Scaled) : Scaled :=
  match fuel with
  | 0 => s
  | fuel + 1 =>
      if s.digits % 10 = 0 then Scaled.trim fuel ⟨s.digits / 10, s.exponent + 1⟩ else s

/-- The shortest decimal that reads back as `m · 2 ^ q`, for a positive `m`. -/
def shortest (tie : Tie) (m : Nat) (q : Int) : Scaled :=
  let r := Ratio.ofBinary m q
  let i := Interval.around m q
  let e := r.magnitude
  let found := (List.range 16).findSome? fun (n : Nat) => candidate? tie r i (e - (n + 1 : Nat))
  Scaled.trim 17 (found.getD ⟨tie.round (r.shift (17 - e)), e - 17⟩)

end FlowTriad.Decimal
