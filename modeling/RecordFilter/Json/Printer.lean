import RecordFilter.Json
import RecordFilter.Number.Double.Printer

/-!
# Printing JSON

The compact form has no blanks; the pretty form has one member or item a line, indented by two
spaces. Strings escape quotes, backslashes and the controls of ASCII below the space.
-/

namespace RecordFilter

namespace Json

/-- Doubles always show a fraction or an exponent, which stands for what is not below `10 ^ 16` or
is below `10 ^ (-5)` and always has a sign. -/
def doubleLayout : Double.Layout where
  tie := .toEven
  positional := fun p => -5 < p && p ≤ 16
  showsFraction := true
  showsPlus := true

def Number.print : Number → String
  | negative n => toString n.toInt
  | natural n => toString n.toNat
  | double x => x.print doubleLayout

def escapeChar (c : Char) : List Char :=
  if c = '\"' || c = '\\' then ['\\', c]
  else if c = '\x08' then ['\\', 'b']
  else if c = '\x0c' then ['\\', 'f']
  else if c = '\n' then ['\\', 'n']
  else if c = '\r' then ['\\', 'r']
  else if c = '\t' then ['\\', 't']
  else if c.toNat < 32 then
    ['\\', 'u', '0', '0', Nat.digitChar (c.toNat / 16), Nat.digitChar (c.toNat % 16)]
  else [c]

def printString (s : String) : String :=
  String.ofList ('\"' :: s.toList.flatMap escapeChar ++ ['\"'])

mutual

def compact : Json → String
  | null => "null"
  | bool b => if b then "true" else "false"
  | number n => n.print
  | string s => printString s
  | array items => "[" ++ compactItems items ++ "]"
  | object members => "\x7b" ++ compactMembers members ++ "\x7d"

def compactItems : List Json → String
  | [] => ""
  | [j] => j.compact
  | j :: js => j.compact ++ "," ++ compactItems js

def compactMembers : List (String × Json) → String
  | [] => ""
  | [(k, v)] => printString k ++ ":" ++ v.compact
  | (k, v) :: ms => printString k ++ ":" ++ v.compact ++ "," ++ compactMembers ms

end

/-- The beginning of a line at a depth. -/
def indent (depth : Nat) : String :=
  String.ofList ('\n' :: List.replicate (2 * depth) ' ')

mutual

def prettyAt (depth : Nat) : Json → String
  | null => "null"
  | bool b => if b then "true" else "false"
  | number n => n.print
  | string s => printString s
  | array [] => "[]"
  | array (j :: js) => "[" ++ prettyItems (depth + 1) (j :: js) ++ indent depth ++ "]"
  | object [] => "\x7b\x7d"
  | object (m :: ms) =>
    "\x7b" ++ prettyMembers (depth + 1) (m :: ms) ++ indent depth ++ "\x7d"

def prettyItems (depth : Nat) : List Json → String
  | [] => ""
  | [j] => indent depth ++ prettyAt depth j
  | j :: js => indent depth ++ prettyAt depth j ++ "," ++ prettyItems depth js

def prettyMembers (depth : Nat) : List (String × Json) → String
  | [] => ""
  | [(k, v)] => indent depth ++ printString k ++ ": " ++ prettyAt depth v
  | (k, v) :: ms =>
    indent depth ++ printString k ++ ": " ++ prettyAt depth v ++ "," ++ prettyMembers depth ms

end

def pretty (j : Json) : String :=
  j.prettyAt 0

end Json

end RecordFilter
