/-
`Json/Writer.lean` -- writing a JSON document.

There are two layouts. `pretty` puts every item and member on a line of its own, two
spaces further in than what holds it; an array or an object without any is written
on one line. `compact` has no white space at all. Here an object's members are
written in the order in which they stand, so that a document can follow the order
of its own description.
-/
import FlowTriad.Json
import FlowTriad.Decimal.Layout

set_option autoImplicit false

namespace FlowTriad.Json

/-- A hexadecimal digit. -/
def hexDigit (n : Nat) : Char :=
  if n < 10 then Char.ofNat ('0'.toNat + n) else Char.ofNat ('a'.toNat + n - 10)

/-- A character as it stands in a string: quotes, backslashes and control characters
are escaped, and nothing else is. -/
def escaped (c : Char) : List Char :=
  match c with
  | '"' => ['\\', '"']
  | '\\' => ['\\', '\\']
  | '\n' => ['\\', 'n']
  | '\r' => ['\\', 'r']
  | '\t' => ['\\', 't']
  | '\x08' => ['\\', 'b']
  | '\x0c' => ['\\', 'f']
  | c =>
      if c.toNat < 0x20 then ['\\', 'u', '0', '0', hexDigit (c.toNat / 16), hexDigit (c.toNat % 16)]
      else [c]

/-- A string with its quotes. -/
def quoted (s : String) : String :=
  String.ofList ('"' :: s.toList.flatMap escaped ++ ['"'])

/-- The text of a number. -/
def Number.text : Number → String
  | .integer n => toString n
  | .real x => Decimal.jsonText x

mutual

/-- The document without white space. -/
def compact : Json → String
  | null => "null"
  | bool b => if b then "true" else "false"
  | number n => n.text
  | string s => quoted s
  | array items => "[" ++ ",".intercalate (compactItems items) ++ "]"
  | object ms => "\x7b" ++ ",".intercalate (compactMembers ms) ++ "\x7d"

/-- The items of an array, each without white space. -/
def compactItems : List Json → List String
  | [] => []
  | j :: js => compact j :: compactItems js

/-- The members of an object, each without white space. -/
def compactMembers : List (String × Json) → List String
  | [] => []
  | (k, v) :: ms => (quoted k ++ ":" ++ compact v) :: compactMembers ms

end

/-- The start of a line that is a number of steps in. -/
def margin (depth : Nat) : String :=
  String.ofList (List.replicate (2 * depth) ' ')

/-- A bracketed list with one element a line; `depth` is where the list itself stands. -/
def block (opening closing : String) (depth : Nat) (elements : List String) : String :=
  if elements.isEmpty then opening ++ closing
  else
    opening ++ "\n" ++
      ",\n".intercalate (elements.map (margin (depth + 1) ++ ·)) ++
      "\n" ++ margin depth ++ closing

mutual

/-- The document with one item or member a line, at a depth. -/
def prettyAt (depth : Nat) : Json → String
  | array items => block "[" "]" depth (prettyItems (depth + 1) items)
  | object ms => block "\x7b" "\x7d" depth (prettyMembers (depth + 1) ms)
  | j => compact j

/-- The items of an array, each with what it holds on lines of their own. -/
def prettyItems (depth : Nat) : List Json → List String
  | [] => []
  | j :: js => prettyAt depth j :: prettyItems depth js

/-- The members of an object, each with what it holds on lines of their own. -/
def prettyMembers (depth : Nat) : List (String × Json) → List String
  | [] => []
  | (k, v) :: ms => (quoted k ++ ": " ++ prettyAt depth v) :: prettyMembers depth ms

end

/-- The document with one item or member a line. -/
def pretty (j : Json) : String :=
  prettyAt 0 j

end FlowTriad.Json
