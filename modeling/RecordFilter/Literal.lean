import RecordFilter.Text.Blank

/-!
# Literals

The right-hand side of a condition, and its written form. In filter text a backslash makes the
character after it an ordinary one, and the blank characters at the ends of a literal count only
when they are escaped.
-/

namespace RecordFilter

inductive Literal where
  | text (s : String)
  | null
deriving DecidableEq, Repr

namespace Literal

/-- The characters that a literal holds only behind a backslash. -/
def isStructural (c : Char) : Bool :=
  c == '=' || c == '!' || c == '(' || c == ')' || c == '|' || c == '&' || c == '\\'

def nullWord : String := "null"

/-! ## Reading -/

/-- A literal that is being read: its characters so far, and how many bytes of them have to stay. -/
structure Draft where
  text : String
  keep : Nat
deriving DecidableEq, Repr

namespace Draft

def empty : Draft :=
  ⟨"", 0⟩

/-- Takes one character more. One that is not significant is passed over as long as there is no
other before it; everything up to a significant one has to stay. -/
def push (d : Draft) (c : Char) (significant : Bool) : Draft :=
  if d.text.isEmpty && !significant then d
  else
    let text := d.text.push c
    ⟨text, if significant then text.utf8ByteSize else d.keep⟩

/-- Reads on. The character behind a backslash is significant, and so is any other that is not
blank; a last backslash with none behind it is dropped. -/
def read (d : Draft) : List Char → Draft
  | [] => d
  | ['\\'] => d
  | '\\' :: c :: r => (d.push c true).read r
  | c :: r => (d.push c (!Text.isBlank c)).read r

/-- The characters that have to stay. -/
def kept (d : Draft) : String :=
  String.Pos.Raw.extract d.text 0 ⟨d.keep⟩

end Draft

/-- What a raw literal stands for: without the backslashes that escape, and without the unescaped
blank characters at its ends. -/
def unescape (raw : List Char) : List Char :=
  (Draft.empty.read raw).kept.toList

/-- The word `null` alone is the null literal; any other text stands for what it unescapes to. -/
def ofRaw (raw : List Char) : Literal :=
  if Text.trim raw = nullWord.toList then null else text (String.ofList (unescape raw))

/-! ## Writing -/

/-- Escapes the structural characters and a blank last character. -/
def escapeTail : List Char → List Char
  | [] => []
  | c :: r =>
    if isStructural c || (Text.isBlank c && r.isEmpty) then '\\' :: c :: escapeTail r
    else c :: escapeTail r

/-- Writes a text so that it reads back as itself: the structural characters are escaped, so are a
blank character at either end and a leading `*`, which an operator would take; the word `null`
gets a leading backslash. -/
def escape (s : List Char) : List Char :=
  if s = nullWord.toList then '\\' :: s
  else match s with
    | [] => []
    | c :: r =>
      if isStructural c || Text.isBlank c || c == '*' then '\\' :: c :: escapeTail r
      else c :: escapeTail r

def render : Literal → String
  | text s => String.ofList (escape s.toList)
  | null => nullWord

def text? : Literal → Option String
  | text s => some s
  | null => none

def isNull : Literal → Bool
  | text _ => false
  | null => true

end Literal

end RecordFilter
