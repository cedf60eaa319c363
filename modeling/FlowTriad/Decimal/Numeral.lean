/-
`Decimal/Numeral.lean` -- numerals as written, and the doubles they denote.

A numeral is a sign, digits before and after a point, and an exponent. There are
two ways to read it as a double, and they differ in the last bit now and then.

* `nearest` takes the double nearest to the number that the numeral denotes,
  however many digits it has. Configuration files are read so.
* `scaled?` takes in digits as long as they fit into 64 bits, rounds the number
  they form, and then multiplies or divides once by a power of ten, which rounds
  again. Captures are read so. Where the digits fit into 53 bits and the exponent
  is at most 22 the two agree, as both steps are then exact or the only rounding.
-/
import FlowTriad.Decimal.Parts

set_option autoImplicit false

namespace FlowTriad.Decimal

/-- A decimal numeral. -/
structure Numeral where
  negative : Bool
  /-- The digits before the point. -/
  whole : List Nat
  /-- The digits after the point. -/
  fraction : List Nat
  exponent : Int
  deriving DecidableEq, Repr

namespace Numeral

/-- The value of a list of digits. -/
def valueOf (ds : List Nat) : Nat :=
  ds.foldl (fun n d => 10 * n + d) 0

/-- A double with the sign of the numeral. -/
def signed (n : Numeral) (x : Float) : Float :=
  if n.negative then -x else x

/-! ## 1. The nearest double -/

/-- The double nearest to the numeral's value; an infinity where that is out of
range. Exponents that no digits can bring back into range are settled first. -/
def nearest (n : Numeral) : Float :=
  let digits := valueOf (n.whole ++ n.fraction)
  let exponent := n.exponent - n.fraction.length
  let top := (Nat.toDigits 10 digits).length + exponent
  n.signed <|
    if digits = 0 ∨ top < -400 then 0.0
    else if 400 < top then 1.0 / 0.0
    else Float.ofScientific digits (exponent < 0) exponent.natAbs

/-! ## 2. The scaled double -/

/-- Takes in digits while the number they form fits into 64 bits; the number, and
the digits left over. -/
def takeIn (n : Nat) : List Nat → Nat × List Nat
  | [] => (n, [])
  | d :: ds => if Whole.fitsUnsigned (10 * n + d) then takeIn (10 * n + d) ds else (n, d :: ds)

/-- The double nearest to `10 ^ k`. -/
def powerOfTen (k : Nat) : Float :=
  Float.ofScientific 1 false k

/-- A 64-bit number times a power of ten, each step rounded; `none` where the result
is out of range. A power below the range of doubles is applied in two steps, and
what two steps leave of so small a number is zero. -/
def scaleBy (significand : Nat) (exponent : Int) : Option Float :=
  let x := Float.ofNat significand
  if 0 ≤ exponent then
    if exponent ≤ 308 then
      let y := x * powerOfTen exponent.toNat
      if y.isInf then none else some y
    else if significand = 0 then some 0.0 else none
  else if -308 ≤ exponent then some (x / powerOfTen exponent.natAbs)
  else if -616 ≤ exponent then some (x / powerOfTen 308 / powerOfTen (exponent.natAbs - 308))
  else some 0.0

/-- The double that the numeral denotes in a capture; `none` where it is out of
range. Digits before the point that no longer fit count as powers of ten, digits
after it are dropped. -/
def scaled? (n : Numeral) : Option Float :=
  let (w, dropped) := takeIn 0 n.whole
  let (s, rest) := takeIn w n.fraction
  let taken : Int := n.fraction.length - rest.length
  (scaleBy s (n.exponent + dropped.length - taken)).map n.signed

end Numeral

end FlowTriad.Decimal
