/-!
# Positions in a text

A position counts the bytes before it in UTF-8, and gives the line and the column, both from one.
It is reached either step by step over what was read (`Position.after`) or from the text before it
as a whole (`Position.behind`). For a byte offset, the line and the column are counted anew
(`lineColumn`), or from the offset that was asked for last (`Tracker.locate`).
-/

namespace RecordFilter.Text

/-- The number of bytes of a text in UTF-8. -/
def byteLength (s : List Char) : Nat :=
  s.foldr (fun c n => c.utf8Size + n) 0

/-- A place between two characters. -/
structure Position where
  offset : Nat
  line : Nat
  column : Nat
deriving DecidableEq, Repr

namespace Position

def start : Position := ⟨0, 1, 1⟩

/-- The place just past the character `c`. -/
def step (p : Position) (c : Char) : Position :=
  if c = '\n' then ⟨p.offset + c.utf8Size, p.line + 1, 1⟩
  else ⟨p.offset + c.utf8Size, p.line, p.column + 1⟩

/-- The place just past the text `s` that is read from `p` on. -/
def after (p : Position) (s : List Char) : Position :=
  s.foldl step p

/-- The number of the line that follows the text `s`. -/
def lineBehind (s : List Char) : Nat :=
  s.count '\n' + 1

/-- The number of the column that follows the text `s`: one more than the characters of `s` past
its last line feed. -/
def columnBehind (s : List Char) : Nat :=
  (s.reverse.takeWhile (· ≠ '\n')).length + 1

/-- The place that has exactly the text `s` before it. -/
def behind (s : List Char) : Position :=
  ⟨byteLength s, lineBehind s, columnBehind s⟩

end Position

/-! ## Byte offsets -/

/-- The text from the byte `start` up to the byte `stop`, both of which have to be boundaries
between characters. -/
def slice? (s : String) (start stop : Nat) : Option String :=
  if String.Pos.Raw.IsValid s ⟨start⟩ ∧ String.Pos.Raw.IsValid s ⟨stop⟩ ∧ start ≤ stop then
    some (String.Pos.Raw.extract s ⟨start⟩ ⟨stop⟩)
  else none

/-- The line and the column of a byte offset, counted anew from the text before it. An offset inside
of a character or past the end stands for the end. -/
def lineColumn (input : String) (offset : Nat) : Nat × Nat :=
  let before :=
    if String.Pos.Raw.isValid input ⟨offset⟩ then String.Pos.Raw.extract input 0 ⟨offset⟩ else input
  (Position.lineBehind before.toList, Position.columnBehind before.toList)

/-- A text in which byte offsets are looked up one after another, and the place up to which it has
been read. -/
structure Tracker where
  input : String
  reached : Position

namespace Tracker

def start (input : String) : Tracker :=
  ⟨input, .start⟩

/-- The line and the column of a byte offset. The text is read on to it from the place reached last;
an offset that no text leads to from there is looked up anew. -/
def locate (t : Tracker) (offset : Nat) : (Nat × Nat) × Tracker :=
  match slice? t.input t.reached.offset offset with
  | none => (lineColumn t.input offset, t)
  | some skipped =>
    let p := t.reached.after skipped.toList
    ((p.line, p.column), { t with reached := ⟨offset, p.line, p.column⟩ })

end Tracker

/-! ## Lines -/

/-- The lines of a text. A line feed ends a line, and a carriage return right before it belongs to
the line end; nothing follows the last line feed. -/
def lines : List Char → List (List Char)
  | [] => []
  | '\n' :: r => [] :: lines r
  | '\r' :: '\n' :: r => [] :: lines r
  | c :: r =>
    match lines r with
    | [] => [[c]]
    | l :: ls => (c :: l) :: ls

end RecordFilter.Text
