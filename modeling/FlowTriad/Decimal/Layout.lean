/-
`Decimal/Layout.lean` -- the three ways this program writes a double.

* `plain`: the shortest digits that read back, never with an exponent. Messages
  and exported values use it.
* `fixed`: a fixed number of places, rounded on the exact binary value. Times in
  the export and in the summary use it.
* `jsonText`: the shortest digits again, but always with a point or an exponent,
  as a JSON document needs it to tell a double from a whole number.

They differ in layout only; the digits come from `shortest`.
-/
import FlowTriad.Decimal.Shortest

set_option autoImplicit false

namespace FlowTriad.Decimal

/-- A run of zeros. -/
def zeros (n : Nat) : String :=
  String.ofList (List.replicate n '0')

/-- The text of a sign. -/
def signText (negative : Bool) : String :=
  if negative then "-" else ""

/-- A positive decimal written out. `whole` is what follows the digits of a whole
number. -/
def positional (s : Scaled) (whole : String) : String :=
  let ds := toString s.digits
  let count := ds.length
  let point : Int := count + s.exponent
  if 0 ≤ s.exponent then ds ++ zeros s.exponent.toNat ++ whole
  else if 0 < point then
    String.ofList (ds.toList.take point.toNat) ++ "." ++ String.ofList (ds.toList.drop point.toNat)
  else "0." ++ zeros (-point).toNat ++ ds

/-- The shortest text that reads back, written out in full. Of two equally near
decimals the larger is taken. A whole number has no point, and the sign of a
negative zero is kept. -/
def plain (x : Float) : String :=
  match Parts.of x with
  | .nan => "NaN"
  | .infinite negative => signText negative ++ "inf"
  | .finite negative m q =>
      signText negative ++ (if m = 0 then "0" else positional (shortest .up m q) "")

/-- A whole number of `10 ^ (-places)`ths, with that many digits after the point. -/
def withPlaces (places n : Nat) : String :=
  let ds := toString n
  let padded := (zeros (places + 1 - ds.length) ++ ds).toList
  let point := padded.length - places
  if places = 0 then ds
  else String.ofList (padded.take point) ++ "." ++ String.ofList (padded.drop point)

/-- A double with a fixed number of places: the exact value rounded, a half going to
the even neighbour. The sign is kept, also where nothing else is left of the number. -/
def fixed (places : Nat) (x : Float) : String :=
  match Parts.of x with
  | .nan => "NaN"
  | .infinite negative => signText negative ++ "inf"
  | .finite negative m q =>
      signText negative ++ withPlaces places ((Ratio.ofBinary m q).shift places).roundEven

/-- The text of a double in a JSON document, which has none for what is not finite.
From `1e-5` up to below `1e16` the number is written out, with at least one digit
after the point; outside, as one digit before the point and an exponent. -/
def jsonText (x : Float) : String :=
  match Parts.of x with
  | .nan => "null"
  | .infinite _ => "null"
  | .finite negative m q =>
      if m = 0 then signText negative ++ "0.0"
      else
        let s := shortest .even m q
        let ds := toString s.digits
        let point : Int := ds.length + s.exponent
        signText negative ++
          if -5 < point ∧ point ≤ 16 then positional s ".0"
          else
            let more := String.ofList (ds.toList.drop 1)
            String.ofList (ds.toList.take 1) ++ (if more.isEmpty then "" else "." ++ more) ++
              "e" ++ toString (point - 1)

end FlowTriad.Decimal
