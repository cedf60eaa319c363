/-
`Text.lean` -- white space, digits, lines and columns.

Every reader of this library that skips or strips white space means the Unicode
property White_Space, not the four characters that a data format may allow
between its tokens. The property is a short list of code points, so it is
written out here as a table and nothing else in the project repeats it. Of digits,
only those of ASCII count.

A line ends at a line feed, which is not part of it, and neither is one carriage
return right before the line feed. A carriage return elsewhere is an ordinary
character. A text that does not end in a line feed has one more line, the piece
after the last one; a text that does has none, so the empty text has no lines.
-/

set_option autoImplicit false

namespace FlowTriad.Text

/-! ## 1. White space -/

/-- The code points with the Unicode property White_Space, as closed ranges. -/
def blankRanges : List (Nat × Nat) :=
  [(0x09, 0x0D), (0x20, 0x20), (0x85, 0x85), (0xA0, 0xA0), (0x1680, 0x1680), (0x2000, 0x200A),
   (0x2028, 0x2029), (0x202F, 0x202F), (0x205F, 0x205F), (0x3000, 0x3000)]

/-- Whether a character is white space. -/
def isBlank (c : Char) : Bool :=
  blankRanges.any fun r => r.1 ≤ c.toNat && c.toNat ≤ r.2

/-- The text from its first character that is not white space on. -/
def trimStart (cs : List Char) : List Char :=
  cs.dropWhile isBlank

/-- The text up to its last character that is not white space. -/
def trimEnd (cs : List Char) : List Char :=
  (cs.reverse.dropWhile isBlank).reverse

/-- The text without the white space at both ends. -/
def trim (cs : List Char) : List Char :=
  trimEnd (trimStart cs)

/-! ## 2. Digits -/

/-- **A class of ASCII digits.** Timestamps and numbers admit no other digits,
so this test is all that their readers need. -/
def isDigit (c : Char) : Bool :=
  '0' ≤ c && c ≤ '9'

/-- The value of an ASCII digit. -/
def digitValue (c : Char) : Nat :=
  c.toNat - '0'.toNat

/-- The number that a run of ASCII digits denotes, most significant first. -/
def decimalValue (cs : List Char) : Nat :=
  cs.foldl (fun n c => 10 * n + digitValue c) 0

/-- The value of a hexadecimal digit of either case. -/
def hexValue? (c : Char) : Option Nat :=
  if isDigit c then some (digitValue c)
  else if 'a' ≤ c && c ≤ 'f' then some (c.toNat - 'a'.toNat + 10)
  else if 'A' ≤ c && c ≤ 'F' then some (c.toNat - 'A'.toNat + 10)
  else none

/-! ## 3. Lengths and columns

The width of a column is counted in characters. A text that is too long for its column
stays as it is. -/

/-- The number of bytes that a text takes in UTF-8. -/
def byteLength (cs : List Char) : Nat :=
  cs.foldl (fun n c => n + c.utf8Size) 0

/-- A run of spaces. -/
def spaces (n : Nat) : String :=
  String.ofList (List.replicate n ' ')

/-- The text at the left of a column. -/
def alignLeft (width : Nat) (s : String) : String :=
  s ++ spaces (width - s.length)

/-- The text at the right of a column. -/
def alignRight (width : Nat) (s : String) : String :=
  spaces (width - s.length) ++ s

/-! ## 4. Lines -/

/-- The lines of a text, without their ends. -/
def lines : List Char → List (List Char)
  | [] => []
  | '\n' :: r => [] :: lines r
  | '\r' :: '\n' :: r => [] :: lines r
  | c :: r =>
      match lines r with
      | [] => [[c]]
      | l :: ls => (c :: l) :: ls

/-- The line, counted from 1, of the place that `passed` leads up to: every line
feed passed begins a new one. -/
def lineAfter (passed : List Char) : Nat :=
  1 + passed.count '\n'

end FlowTriad.Text
