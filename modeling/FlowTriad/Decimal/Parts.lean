/-
`Decimal/Parts.lean` -- whole numbers of 64 bits, and doubles in whole numbers.

Several formats hold whole numbers in 64 bits, with or without a sign, and say what
happens to those that do not fit. The bounds are written out here once.

Everything that has to be exact about a double is said on the three integers
`m`, `q` and the sign: a finite double is `± m · 2 ^ q`. Printing, rounding to
whole numbers and the test for being finite all start here, so no other module
looks at bits.
-/

set_option autoImplicit false

/-! ## 1. Powers, and whole numbers of 64 bits -/

namespace FlowTriad.Whole

/-- The `k`-th power of two. -/
abbrev twoPow (k : Nat) : Nat :=
  Nat.pow 2 k

/-- The `k`-th power of ten. -/
abbrev tenPow (k : Nat) : Nat :=
  Nat.pow 10 k

/-- The least signed number of 64 bits. -/
def least : Int := -9223372036854775808

/-- The greatest signed number of 64 bits. -/
def greatest : Int := 9223372036854775807

/-- Whether a number fits into 64 bits with its sign. -/
def fits (n : Int) : Bool :=
  least ≤ n && n ≤ greatest

/-- Whether a number fits into 64 bits without a sign. -/
def fitsUnsigned (n : Nat) : Bool :=
  n < twoPow 64

end FlowTriad.Whole

/-! ## 2. The parts of a double -/

namespace FlowTriad.Decimal

open Whole (tenPow twoPow)

/-- What a double is, exactly. -/
inductive Parts where
  /-- Not a number. -/
  | nan
  /-- An infinity. -/
  | infinite (negative : Bool)
  /-- The number `± significand · 2 ^ exponent`. -/
  | finite (negative : Bool) (significand : Nat) (exponent : Int)
  deriving DecidableEq, Repr

/-- The parts of a double: one sign bit, eleven bits of biased exponent, and
fifty-two bits of fraction to which all but the smallest numbers add a leading one. -/
def Parts.of (x : Float) : Parts :=
  let bits := x.toBits.toNat
  let negative := bits / twoPow 63 == 1
  let biased : Nat := bits / twoPow 52 % twoPow 11
  let fraction : Nat := bits % twoPow 52
  if biased = twoPow 11 - 1 then if fraction = 0 then .infinite negative else .nan
  else if biased = 0 then .finite negative fraction (-1074)
  else .finite negative (twoPow 52 + fraction) ((biased : Int) - 1075)

/-- Whether a double is a number and not an infinity. -/
def isFinite (x : Float) : Bool :=
  match Parts.of x with
  | .finite .. => true
  | _ => false

/-! ## 3. Fractions, and rounding to whole numbers -/

/-- A fraction of two natural numbers, the denominator positive. -/
structure Ratio where
  num : Nat
  den : Nat
  den_pos : 0 < den := by decide

/-- The number `m · 2 ^ q` as a fraction. -/
def Ratio.ofBinary (m : Nat) (q : Int) : Ratio :=
  match q with
  | .ofNat k => ⟨m * twoPow k, 1, by decide⟩
  | .negSucc k => ⟨m, twoPow (k + 1), Nat.two_pow_pos _⟩

/-- The fraction times `10 ^ k`. -/
def Ratio.shift (r : Ratio) (k : Int) : Ratio :=
  match k with
  | .ofNat j => ⟨r.num * tenPow j, r.den, r.den_pos⟩
  | .negSucc j =>
      ⟨r.num, r.den * tenPow (j + 1), Nat.mul_pos r.den_pos (Nat.pow_pos (by decide))⟩

/-- The whole number nearest to the fraction; of two equally near, the even one. -/
def Ratio.roundEven (r : Ratio) : Nat :=
  let q := r.num / r.den
  let twice := 2 * (r.num % r.den)
  if twice < r.den then q else if r.den < twice then q + 1 else q + q % 2

/-- The whole number nearest to the fraction; of two equally near, the larger. -/
def Ratio.roundUp (r : Ratio) : Nat :=
  (2 * r.num + r.den) / (2 * r.den)

/-- The whole number nearest to a double, a half going away from zero, held within
the signed 64-bit integers. What is not a number counts as zero. -/
def toInt64 (x : Float) : Int :=
  match Parts.of x with
  | .nan => 0
  | .infinite true => Whole.least
  | .infinite false => Whole.greatest
  | .finite negative m q =>
      let n : Int := (Ratio.ofBinary m q).roundUp
      if negative then max (-n) Whole.least else min n Whole.greatest

end FlowTriad.Decimal
