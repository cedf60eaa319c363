/-
`Toml/Scalar.lean` -- numbers, dates, times and truth values.

A scalar that is not quoted is one run of letters, digits and a few signs, and what
it means is decided on the whole run: if the run is not completely a number, a date,
a time or a truth value, it is nothing.

Underscores may stand between digits, one at a time, and have no meaning. Whole
numbers fit into 64 bits with their sign. Doubles are the nearest to what is written;
one that is too large is refused, unless it is negative.
-/
import FlowTriad.Decimal.Numeral
import FlowTriad.Instant.Stamp
import FlowTriad.Toml

set_option autoImplicit false

namespace FlowTriad.Toml

open Decimal (Numeral)

/-- Whether a character can be part of a scalar that is not quoted. -/
def isScalarChar (c : Char) : Bool :=
  c.isAlphanum || c ∈ ['+', '-', '_', '.', ':']

/-! ## 1. Digits -/

/-- The digits of a run with underscores between them. -/
def digits? (digit? : Char → Option Nat) : List Char → Option (List Nat)
  | [] => none
  | [c] => (digit? c).map ([·])
  | c :: '_' :: r => do return (← digit? c) :: (← digits? digit? r)
  | c :: r => do return (← digit? c) :: (← digits? digit? r)

/-- A digit of a base up to sixteen. -/
def digitOf? (base : Nat) (c : Char) : Option Nat :=
  (Text.hexValue? c).filter (· < base)

/-- The digits of a decimal number, which has no zero in front. -/
def wholeDigits? (cs : List Char) : Option (List Nat) :=
  match digits? (digitOf? 10) cs with
  | some (0 :: _ :: _) => none
  | ds => ds

/-- The number that digits of a base form. -/
def valueOf (base : Nat) (ds : List Nat) : Nat :=
  ds.foldl (fun n d => base * n + d) 0

/-- Whether a sign in front says negative, and what follows it. -/
def splitSign : List Char → Bool × List Char
  | '-' :: r => (true, r)
  | '+' :: r => (false, r)
  | cs => (false, cs)

/-! ## 2. Numbers -/

/-- A whole number: decimal with or without a sign, or in base 2, 8 or 16 without. -/
def integer? (cs : List Char) : Option Int := do
  let n : Int ← match cs with
    | '0' :: 'x' :: r => (digits? (digitOf? 16) r).map fun ds => (valueOf 16 ds : Int)
    | '0' :: 'o' :: r => (digits? (digitOf? 8) r).map fun ds => (valueOf 8 ds : Int)
    | '0' :: 'b' :: r => (digits? (digitOf? 2) r).map fun ds => (valueOf 2 ds : Int)
    | cs =>
        let (negative, r) := splitSign cs
        (wholeDigits? r).map fun ds =>
          if negative then -(valueOf 10 ds : Int) else (valueOf 10 ds : Int)
  if Whole.fits n then some n else none

/-- The numeral of a text with a point, an exponent, or both. -/
def numeral? (cs : List Char) : Option Numeral := do
  let (negative, r) := splitSign cs
  let mantissa := r.takeWhile fun c => c != 'e' && c != 'E'
  let whole := mantissa.takeWhile (· != '.')
  let point := mantissa.drop whole.length
  let mark := r.drop mantissa.length
  if point.isEmpty && mark.isEmpty then none
  let whole ← wholeDigits? whole
  let fraction ← match point with
    | [] => some []
    | _ :: r => digits? (digitOf? 10) r
  let exponent ← match mark with
    | [] => some 0
    | _ :: r =>
        let (negative, r) := splitSign r
        (digits? (digitOf? 10) r).map fun ds =>
          if negative then -(valueOf 10 ds : Int) else (valueOf 10 ds : Int)
  return ⟨negative, whole, fraction, exponent⟩

/-- A double. An infinity or what is no number is written as a word. -/
def real? (cs : List Char) : Option Float :=
  let (negative, word) := splitSign cs
  if word = "inf".toList then some (if negative then -1.0 / 0.0 else 1.0 / 0.0)
  else if word = "nan".toList then some (0.0 / 0.0)
  else (numeral? cs).bind fun n =>
    let x := n.nearest
    if x.isInf && !negative then none else some x

/-! ## 3. Dates and times -/

/-- Whether a text is a date that exists. -/
def isDate (cs : List Char) : Bool :=
  Stamp.fits "dddd-dd-dd".toList cs &&
    decide (Date.Exists ⟨Stamp.field cs 0 4, Stamp.field cs 5 2, Stamp.field cs 8 2⟩)

/-- The standard form of a time of day: a fraction of at most nine digits, without zeros
at its end. -/
def time? (cs : List Char) : Option (List Char) :=
  let head := cs.take 8
  if Stamp.fits "dd:dd:dd".toList head && Stamp.field head 0 2 ≤ 23 &&
      Stamp.field head 3 2 ≤ 59 && Stamp.field head 6 2 ≤ 60 then
    match cs.drop 8 with
    | [] => some head
    | '.' :: f =>
        if !f.isEmpty && f.all Text.isDigit then
          let kept := ((f.take 9).reverse.dropWhile (· == '0')).reverse
          some (if kept.isEmpty then head else head ++ '.' :: kept)
        else none
    | _ => none
  else none

/-- The standard form of an offset from universal time, which may be missing. -/
def offset? (cs : List Char) : Option (List Char) :=
  if cs.isEmpty then some []
  else if Stamp.isOffset cs then
    match Stamp.offsetSeconds? cs, cs with
    | some 0, _ :: _ :: _ => some "+00:00".toList
    | some _, [_] => some ['Z']
    | some _, cs => some cs
    | none, _ => none
  else none

/-- The standard form of a time of day with an offset. -/
def timeWithOffset? (cs : List Char) : Option (List Char) := do
  let time := cs.takeWhile fun c => Text.isDigit c || c == ':' || c == '.'
  return (← time? time) ++ (← offset? (cs.drop time.length))

/-- The standard form of a date, with or without a time, or of a time of day. -/
def moment? (cs : List Char) : Option (List Char) :=
  let date := cs.take 10
  if isDate date then
    match cs.drop 10 with
    | [] => some date
    | c :: r =>
        if c ∈ ['T', 't', ' '] then (timeWithOffset? r).map (date ++ 'T' :: ·) else none
  else time? cs

/-! ## 4. All of them -/

/-- The value of a scalar that is not quoted. -/
def scalar? (cs : List Char) : Option Toml :=
  if cs = "true".toList then some (.boolean true)
  else if cs = "false".toList then some (.boolean false)
  else
    match moment? cs with
    | some written => some (.moment (String.ofList written))
    | none =>
        match integer? cs with
        | some n => some (.integer n)
        | none => (real? cs).map .real

end FlowTriad.Toml
