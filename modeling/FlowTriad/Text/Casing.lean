/-
`Text/Casing.lean` -- upper case, lower case, and equality up to ASCII case.

Two notions of case live side by side and must not be confused. Names are
*compared* with `sameIgnoringCase`, which folds the letters `A` to `Z` and nothing
else. Names are *converted* with `lower` and `upper`, which are the full Unicode
mappings: one character may become several, and a capital sigma becomes one of
two small ones, by whether a word ends there.
-/
import FlowTriad.Text.Casing.Table

set_option autoImplicit false

namespace FlowTriad.Text

namespace Casing

/-- The image of a character under a table of runs and a table of words; a
character in neither stands for itself. -/
def image (runs : List Run) (words : List (Nat × List Nat)) (c : Char) : List Char :=
  match words.lookup c.toNat with
  | some ns => ns.map Char.ofNat
  | none =>
      match runs.findSome? (·.image? c.toNat) with
      | some n => [Char.ofNat n]
      | none => [c]

/-- Whether a character lies in one of the closed ranges. -/
def within (ranges : List (Nat × Nat)) (c : Char) : Bool :=
  ranges.any fun r => r.1 ≤ c.toNat && c.toNat ≤ r.2

/-- Whether the first character of `cs` that is not passed over has case. -/
def meetsCased (cs : List Char) : Bool :=
  match cs.dropWhile (within ignorableRanges) with
  | [] => false
  | c :: _ => within casedRanges c

/-- The lower case of a text whose earlier characters, nearest first, were
`before`. -/
def lowerAfter (before : List Char) : List Char → List Char
  | [] => []
  | 'Σ' :: r =>
      (if meetsCased before && !meetsCased r then 'ς' else 'σ') :: lowerAfter ('Σ' :: before) r
  | c :: r => image lowerRuns lowerWords c ++ lowerAfter (c :: before) r

end Casing

/-- The upper case of a text. -/
def upper (cs : List Char) : List Char :=
  cs.flatMap (Casing.image Casing.upperRuns Casing.upperWords)

/-- The lower case of a text. A capital sigma becomes the final form `ς` where it
ends a word: a letter with case precedes it and none follows, marks and
apostrophes aside. -/
def lower (cs : List Char) : List Char :=
  Casing.lowerAfter [] cs

/-- An ASCII capital as the small letter; any other character as it is. -/
def foldAscii (c : Char) : Char :=
  if 'A' ≤ c ∧ c ≤ 'Z' then Char.ofNat (c.toNat + 32) else c

/-- Whether two names are equal but for the case of ASCII letters. -/
def sameIgnoringCase (a b : String) : Bool :=
  a.toList.map foldAscii == b.toList.map foldAscii

end FlowTriad.Text
