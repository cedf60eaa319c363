/-
`Toml/Quoted.lean` -- quoted strings.

There are two quotes, and either may be single or threefold. Between double quotes a
backslash begins an escape; between single quotes every character is itself. Strings
in threefold quotes may run over several lines; a line feed right after the opening
quotes is dropped, one or two quotes may stand in the string, also at its end, and a
backslash at the end of a line drops the white space up to the next character.

The functions here read what follows the opening quotes, and hand on what follows the
closing ones. Ends of lines are line feeds.
-/
import FlowTriad.Text

set_option autoImplicit false

namespace FlowTriad.Toml

/-- White space within a line. -/
def isSpace (c : Char) : Bool :=
  c == ' ' || c == '\t'

/-- Whether a character may stand in a string or a comment as it is: it is a tab or no
control character. -/
def isPlain (c : Char) : Bool :=
  c == '\t' || (0x20 ≤ c.toNat && c.toNat != 0x7F)

/-! ## 1. Escapes -/

/-- How far an escape has been read. -/
inductive Escape where
  /-- No escape is open. -/
  | none
  /-- After the backslash. -/
  | backslash
  /-- Before this many more digits of a code. -/
  | code (left : Nat) (value : Nat)
  /-- In the white space after a backslash; `broken` says that the line has ended. -/
  | gap (broken : Bool)
  deriving DecidableEq, Repr

/-- The character that a one-letter escape stands for. -/
def escapeLetter? : Char → Option Char
  | 'b' => some '\x08'
  | 't' => some '\t'
  | 'n' => some '\n'
  | 'f' => some '\x0c'
  | 'r' => some '\r'
  | '"' => some '"'
  | '\\' => some '\\'
  | _ => Option.none

/-- The character of a code, if it has one. -/
def charOfCode? (n : Nat) : Option Char :=
  if n.isValidChar then some (Char.ofNat n) else Option.none

/-- What a character does to a string without an open escape: what it adds, and the
escape that it opens. -/
def plainStep (threefold : Bool) (c : Char) : Option (List Char × Escape) :=
  if c = '\\' then some ([], .backslash)
  else if isPlain c || (threefold && c == '\n') then some ([c], .none)
  else Option.none

/-- What a character does to a string. -/
def step (threefold : Bool) (escape : Escape) (c : Char) : Option (List Char × Escape) :=
  match escape with
  | .none => plainStep threefold c
  | .backslash =>
      if c = 'u' then some ([], .code 4 0)
      else if c = 'U' then some ([], .code 8 0)
      else if threefold && (isSpace c || c == '\n') then some ([], .gap (c == '\n'))
      else (escapeLetter? c).map fun e => ([e], .none)
  | .code left value => do
      let d ← Text.hexValue? c
      if left = 1 then
        let e ← charOfCode? (16 * value + d)
        return ([e], .none)
      else return ([], .code (left - 1) (16 * value + d))
  | .gap broken =>
      if isSpace c then some ([], .gap broken)
      else if c = '\n' then some ([], .gap true)
      else if broken then plainStep threefold c
      else Option.none

/-! ## 2. Strings -/

/-- What follows threefold quotes at the end of a string, with up to two quotes before
them that belong to it. -/
def closing (quote : Char) : List Char → List Char × List Char
  | a :: b :: r =>
      if a = quote then if b = quote then ([quote, quote], r) else ([quote], b :: r)
      else ([], a :: b :: r)
  | [a] => if a = quote then ([quote], []) else ([], [a])
  | [] => ([], [])

/-- Whether a text begins with three quotes. -/
def threeQuotes (quote : Char) (cs : List Char) : Bool :=
  cs.take 3 == [quote, quote, quote]

/-- Whether a quote may end a string, or belong to it, where an escape stands open: all
escapes but a code must be complete, and the white space of a gap is. -/
def Escape.settled : Escape → Bool
  | .none => true
  | .gap broken => broken
  | _ => false

/-- The rest of a string in double quotes, its characters so far last first. -/
def basic (threefold : Bool) (read : List Char) (escape : Escape) :
    List Char → Option (List Char × List Char)
  | [] => Option.none
  | c :: r =>
      if c = '"' ∧ escape.settled then
        if !threefold then some (read.reverse, r)
        else if threeQuotes '"' (c :: r) then
          let (quotes, rest) := closing '"' (r.drop 2)
          some (read.reverse ++ quotes, rest)
        else basic threefold (c :: read) .none r
      else
        match step threefold escape c with
        | some (added, escape) => basic threefold (added ++ read) escape r
        | Option.none => Option.none

/-- The rest of a string in single quotes, its characters so far last first. -/
def literal (threefold : Bool) (read : List Char) : List Char → Option (List Char × List Char)
  | [] => Option.none
  | c :: r =>
      if c = '\'' then
        if !threefold then some (read.reverse, r)
        else if threeQuotes '\'' (c :: r) then
          let (quotes, rest) := closing '\'' (r.drop 2)
          some (read.reverse ++ quotes, rest)
        else literal threefold (c :: read) r
      else if isPlain c || (threefold && c == '\n') then literal threefold (c :: read) r
      else Option.none

/-- A text without a line feed in front. -/
def dropLineFeed : List Char → List Char
  | '\n' :: r => r
  | cs => cs

/-- A quoted string of any kind, opening quotes included. -/
def quoted? (cs : List Char) : Option (List Char × List Char) :=
  match cs with
  | '"' :: '"' :: '"' :: r => basic true [] .none (dropLineFeed r)
  | '\'' :: '\'' :: '\'' :: r => literal true [] (dropLineFeed r)
  | '"' :: r => basic false [] .none r
  | '\'' :: r => literal false [] r
  | _ => Option.none

end FlowTriad.Toml
