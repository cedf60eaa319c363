/-
`Json/Reader.lean` -- reading a JSON document.

The reader is a machine that takes one character at a time. What it has read so far
is a stack of open arrays and objects, and what it expects next is its mode. So the
reader is total without a bound of any kind, and the place where a text stops being
a document is simply how far the machine has come.

The format is taken strictly: four characters are white space, no comma stands at an
end, no escape is half a surrogate pair, and no control character stands in a
string. Two limits are the reader's own: fewer than 128 arrays and objects may be
open at once, and a number must not be out of the range of doubles.
-/
import FlowTriad.Decimal.Numeral
import FlowTriad.Json
import FlowTriad.Text

set_option autoImplicit false

namespace FlowTriad.Json

open Decimal (Numeral)

/-! ## 1. Numbers -/

/-- The number that a numeral denotes: whole where it is written without point and
exponent and fits into 64 bits, signed or not; `none` where it is out of range. A
negative zero is a double, as no whole number has its sign. `plain` says that the
numeral has neither point nor exponent. -/
def Number.ofNumeral? (plain : Bool) (n : Numeral) : Option Number :=
  let m : Nat := Numeral.valueOf n.whole
  if plain && !n.negative && Whole.fitsUnsigned m then some (.integer m)
  else if plain && n.negative && 0 < m && Whole.fits (-m) then some (.integer (-m))
  else n.scaled?.map .real

/-- How far a numeral has been read. -/
inductive NumeralPart where
  /-- After the minus sign. -/
  | sign
  /-- After a zero in front, which nothing but a point or an exponent may follow. -/
  | zero
  | whole
  /-- After the point, before its first digit. -/
  | point
  | fraction
  /-- After the letter of the exponent. -/
  | mark
  /-- After the sign of the exponent. -/
  | markSign
  | exponent
  deriving DecidableEq, Repr

/-- A numeral that is being read, the digits of each part last first. -/
structure PartialNumeral where
  part : NumeralPart
  negative : Bool := false
  whole : List Nat := []
  fraction : List Nat := []
  exponentNegative : Bool := false
  exponent : List Nat := []

namespace PartialNumeral

/-- The numeral read so far. -/
def numeral (n : PartialNumeral) : Numeral where
  negative := n.negative
  whole := n.whole.reverse
  fraction := n.fraction.reverse
  exponent :=
    let e : Int := Numeral.valueOf n.exponent.reverse
    if n.exponentNegative then -e else e

/-- Whether the numeral may end here. -/
def complete (n : PartialNumeral) : Bool :=
  n.part ∈ [.zero, .whole, .fraction, .exponent]

/-- The number, if the numeral may end here and is in range. -/
def finish? (n : PartialNumeral) : Option Number :=
  if n.complete then Number.ofNumeral? (n.part ∈ [.zero, .whole]) n.numeral else none

/-- The numeral after one more character, if the character belongs to it. -/
def take? (n : PartialNumeral) (c : Char) : Option PartialNumeral :=
  if Text.isDigit c then
    let d := Text.digitValue c
    match n.part with
    | .sign => some { n with part := if d = 0 then .zero else .whole, whole := [d] }
    | .zero => none
    | .whole => some { n with whole := d :: n.whole }
    | .point => some { n with part := .fraction, fraction := [d] }
    | .fraction => some { n with fraction := d :: n.fraction }
    | .mark => some { n with part := .exponent, exponent := [d] }
    | .markSign => some { n with part := .exponent, exponent := [d] }
    | .exponent => some { n with exponent := d :: n.exponent }
  else if c = '.' then
    if n.part ∈ [.zero, .whole] then some { n with part := .point } else none
  else if c = 'e' ∨ c = 'E' then
    if n.part ∈ [.zero, .whole, .fraction] then some { n with part := .mark } else none
  else if c = '+' ∨ c = '-' then
    if n.part = .mark then some { n with part := .markSign, exponentNegative := c = '-' } else none
  else none

end PartialNumeral

/-! ## 2. The machine -/

/-- An array or object that is still open. -/
inductive Frame where
  /-- An array, with its items so far, last first. -/
  | array (items : List Json)
  /-- An object, with its members so far and the name that waits for its value. -/
  | object (members : Members) (name : String)

/-- What a string is read for. -/
inductive Role where
  | value
  | memberName
  deriving DecidableEq, Repr

/-- How far an escape in a string has been read. The digits of a code are counted in
bytes: four bytes are taken for a code before any of them is looked at, and `spoilt`
says that one of them was no digit. -/
inductive Escape where
  /-- No escape is open. -/
  | none
  /-- After the backslash. -/
  | backslash
  /-- In the four bytes of a code; `high` is the first half of a surrogate pair. -/
  | code (high : Option Nat) (bytes : Nat) (value : Nat) (spoilt : Bool)
  /-- Before the backslash of a second half. -/
  | pairBackslash (high : Nat)
  /-- Before the letter of a second half. -/
  | pairLetter (high : Nat)
  deriving DecidableEq, Repr

/-- What the machine expects next. -/
inductive Mode where
  /-- A value. -/
  | value
  /-- The first item of an array, or its end. -/
  | firstItem
  /-- The first name of an object, or its end. -/
  | firstName
  /-- A name, after a comma. -/
  | name
  /-- The colon after a name. -/
  | colon
  /-- A comma or an end, after an item or a member. -/
  | separator
  /-- The rest of a string, whose characters so far stand last first. -/
  | string (role : Role) (read : List Char) (escape : Escape)
  /-- The rest of a numeral. -/
  | numeral (n : PartialNumeral)
  /-- The rest of `null`, `true` or `false`. -/
  | word (rest : List Char) (meaning : Json)
  /-- Nothing more: the document is complete. -/
  | finished (document : Json)

/-- A state of the machine. -/
structure State where
  stack : List Frame
  mode : Mode

/-- What a character does to the machine. -/
inductive Outcome where
  /-- It is taken. -/
  | next (s : State)
  /-- It is taken, and the text is no document. -/
  | refused
  /-- It is not taken, since what precedes it is out of range already. -/
  | tooLate

/-- The white space of the format. -/
def isSpace (c : Char) : Bool :=
  c == ' ' || c == '\t' || c == '\n' || c == '\r'

/-- The most arrays and objects that may be open at once. -/
def maxOpen : Nat := 127

/-- The state after a complete value. -/
def deliver (v : Json) : List Frame → State
  | [] => ⟨[], .finished v⟩
  | .array items :: fs => ⟨.array (v :: items) :: fs, .separator⟩
  | .object ms name :: fs => ⟨.object (Entries.insert name v ms) name :: fs, .separator⟩

/-- Opens an array or an object, if there is room. -/
def enter (f : Frame) (m : Mode) (fs : List Frame) : Outcome :=
  if fs.length < maxOpen then .next ⟨f :: fs, m⟩ else .refused

/-- Begins a value. -/
def beginValue (fs : List Frame) (c : Char) : Outcome :=
  match c with
  | '[' => enter (.array []) .firstItem fs
  | '{' => enter (.object [] "") .firstName fs
  | '"' => .next ⟨fs, .string .value [] .none⟩
  | 'n' => .next ⟨fs, .word "ull".toList .null⟩
  | 't' => .next ⟨fs, .word "rue".toList (.bool true)⟩
  | 'f' => .next ⟨fs, .word "alse".toList (.bool false)⟩
  | '-' => .next ⟨fs, .numeral { part := .sign, negative := true }⟩
  | c =>
      match PartialNumeral.take? { part := .sign } c with
      | some n => .next ⟨fs, .numeral n⟩
      | none => .refused

/-- Ends an array or an object, or goes on to its next item or member. -/
def afterItem (fs : List Frame) (c : Char) : Outcome :=
  match fs, c with
  | .array items :: fs, ',' => .next ⟨.array items :: fs, .value⟩
  | .array items :: fs, ']' => .next (deliver (.array items.reverse) fs)
  | .object ms name :: fs, ',' => .next ⟨.object ms name :: fs, .name⟩
  | .object ms _ :: fs, '}' => .next (deliver (.object ms) fs)
  | _, _ => .refused

/-- The character that a one-letter escape stands for. -/
def escapeLetter? : Char → Option Char
  | '"' => some '"'
  | '\\' => some '\\'
  | '/' => some '/'
  | 'b' => some '\x08'
  | 'f' => some '\x0c'
  | 'n' => some '\n'
  | 'r' => some '\r'
  | 't' => some '\t'
  | _ => none

/-- What a complete code does to a string: it stands for a character, alone or as the
second half of a pair, or it is a first half, or it is refused. -/
def closeCode (role : Role) (read : List Char) (high : Option Nat) (n : Nat) : Option Mode :=
  match high with
  | none =>
      if 0xD800 ≤ n ∧ n < 0xDC00 then some (.string role read (.pairBackslash n))
      else if 0xDC00 ≤ n ∧ n < 0xE000 then none
      else some (.string role (Char.ofNat n :: read) .none)
  | some h =>
      if 0xDC00 ≤ n ∧ n < 0xE000 then
        let c := 0x10000 + (h - 0xD800) * 0x400 + (n - 0xDC00)
        some (.string role (Char.ofNat c :: read) .none)
      else none

/-- The mode after a character of a string whose end it is not. -/
def inString (role : Role) (read : List Char) (escape : Escape) (c : Char) : Option Mode :=
  match escape with
  | .none =>
      if c = '\\' then some (.string role read .backslash)
      else if c.toNat < 0x20 then none
      else some (.string role (c :: read) .none)
  | .backslash =>
      if c = 'u' then some (.string role read (.code none 0 0 false))
      else (escapeLetter? c).map fun e => .string role (e :: read) .none
  | .code high bytes value spoilt =>
      let bytes := bytes + c.utf8Size
      let (value, spoilt) := match Text.hexValue? c with
        | some d => (16 * value + d, spoilt)
        | none => (value, true)
      if bytes < 4 then some (.string role read (.code high bytes value spoilt))
      else if spoilt then none
      else closeCode role read high value
  | .pairBackslash high =>
      if c = '\\' then some (.string role read (.pairLetter high)) else none
  | .pairLetter high =>
      if c = 'u' then some (.string role read (.code (some high) 0 0 false)) else none

/-- The state after the end of a string. -/
def endString (fs : List Frame) (role : Role) (read : List Char) : State :=
  let s := String.ofList read.reverse
  match role, fs with
  | .memberName, .object ms _ :: fs => ⟨.object ms s :: fs, .colon⟩
  | _, fs => deliver (.string s) fs

/-- What a character does to a machine that is between tokens. -/
def betweenTokens (s : State) (c : Char) : Outcome :=
  if isSpace c then .next s
  else
    match s.mode with
    | .value => beginValue s.stack c
    | .firstItem =>
        if c = ']' then afterItem s.stack c else beginValue s.stack c
    | .firstName =>
        if c = '"' then .next ⟨s.stack, .string .memberName [] .none⟩
        else if c = '}' then afterItem s.stack c
        else .refused
    | .name => if c = '"' then .next ⟨s.stack, .string .memberName [] .none⟩ else .refused
    | .colon => if c = ':' then .next ⟨s.stack, .value⟩ else .refused
    | .separator => afterItem s.stack c
    | _ => .refused

/-- What a character does to the machine. A numeral ends at the first character that
does not belong to it, which is then looked at again. -/
def step (s : State) (c : Char) : Outcome :=
  match s.mode with
  | .string role read escape =>
      if c = '"' ∧ escape = .none then .next (endString s.stack role read)
      else
        match inString role read escape c with
        | some m => .next ⟨s.stack, m⟩
        | none => .refused
  | .numeral n =>
      match n.take? c with
      | some n => .next ⟨s.stack, .numeral n⟩
      | none =>
          if n.complete && !(n.part = .zero && Text.isDigit c) then
            match n.finish? with
            | some v => betweenTokens (deliver (.number v) s.stack) c
            | none => .tooLate
          else .refused
  | .word rest meaning =>
      match rest with
      | [] => .refused
      | [d] => if c = d then .next (deliver meaning s.stack) else .refused
      | d :: rest => if c = d then .next ⟨s.stack, .word rest meaning⟩ else .refused
  | _ => betweenTokens s c

/-- Runs the machine over a text; if the text is refused, what was not taken of it. -/
def run (s : State) : List Char → Except (List Char) State
  | [] => .ok s
  | c :: cs =>
      match step s c with
      | .next t => run t cs
      | .refused => .error cs
      | .tooLate => .error (c :: cs)

/-- The document that the machine has read when the text is at its end. -/
def State.document? (s : State) : Option Json :=
  match s.mode, s.stack with
  | .finished v, _ => some v
  | .numeral n, [] => n.finish?.map .number
  | _, _ => none

/-- The JSON document of a text; if there is none, the number of the line where the
reader gave up. A document that ends too soon is given up at the end of the text. -/
def read (text : List Char) : Except Nat Json :=
  match run ⟨[], .value⟩ text with
  | .error rest => .error (Text.lineAfter (text.take (text.length - rest.length)))
  | .ok s =>
      match s.document? with
      | some v => .ok v
      | none => .error (Text.lineAfter text)

end FlowTriad.Json
