import RecordFilter.SyntaxError

/-!
# Cutting filter text into tokens

The text is cut from left to right, the longest piece first. An operator is looked for only after
a field name and a literal only after an operator; where none is found, or anywhere else, the next
piece is a parenthesis, a connector or a field name. Between pieces stand spaces, tabs, carriage
returns and line feeds. Cutting loses no text, and it stops at the first character that no piece
can start with.
-/

namespace RecordFilter

namespace Token

/-! ## Classes of characters -/

def isSeparator (c : Char) : Bool :=
  c == ' ' || c == '\t' || c == '\r' || c == '\n'

def isNameStart (c : Char) : Bool :=
  c.isAlpha || c == '_'

def isNamePart (c : Char) : Bool :=
  c.isAlphanum || c == '_'

/-! ## The longest lexeme of each class -/

/-- What a field name that has begun goes on with: name characters, and dots that another name
follows. -/
def fieldTail : List Char → List Char
  | [] => []
  | [c] => if isNamePart c then [c] else []
  | c :: d :: r =>
    if isNamePart c then c :: fieldTail (d :: r)
    else if c == '.' && isNameStart d then c :: d :: fieldTail r
    else []

/-- The names joined by dots that the text begins with; empty if it begins with none. -/
def fieldLexeme : List Char → List Char
  | [] => []
  | c :: r => if isNameStart c then c :: fieldTail r else []

/-- The characters up to the next structural one that is not escaped. -/
def literalLexeme : List Char → List Char
  | [] => []
  | [c] => if Literal.isStructural c then [] else [c]
  | c :: d :: r =>
    if c == '\\' then c :: d :: literalLexeme r
    else if Literal.isStructural c then []
    else c :: literalLexeme (d :: r)

/-! ## Pieces -/

/-- What may come next, besides a parenthesis, a connector or a field name. -/
inductive Awaiting where
  | element
  | operator
  | literal
deriving DecidableEq, Repr

/-- What may come after a token. -/
def Awaiting.after : TokenKind → Awaiting
  | .field _ => operator
  | .operator _ => literal
  | _ => element

/-- The parenthesis, connector or field name that the text begins with, and its lexeme. -/
def element? : List Char → Option (TokenKind × List Char)
  | [] => none
  | c :: r =>
    if c == '(' then some (.leftParen, [c])
    else if c == ')' then some (.rightParen, [c])
    else if c == '|' then some (.or, [c])
    else if c == '&' then some (.and, [c])
    else match fieldLexeme (c :: r) with
      | [] => none
      | name => some (.field (String.ofList name), name)

def operator? (s : List Char) : Option (TokenKind × List Char) :=
  (Operator.longestAt? s).map fun op => (.operator op, op.symbol.toList)

def literal? (s : List Char) : Option (TokenKind × List Char) :=
  match literalLexeme s with
  | [] => none
  | raw => some (.ofLiteral (.ofRaw raw), raw)

/-- The token that the text begins with, and its lexeme. -/
def first? : Awaiting → List Char → Option (TokenKind × List Char)
  | .element, s => element? s
  | .operator, s => (operator? s).or (element? s)
  | .literal, s => (literal? s).or (element? s)

theorem element?_ne_nil {s l : List Char} {k : TokenKind} (h : element? s = some (k, l)) :
    l ≠ [] := by
  cases s with
  | nil => simp [element?] at h
  | cons c r => grind [element?]

theorem operator?_ne_nil {s l : List Char} {k : TokenKind} (h : operator? s = some (k, l)) :
    l ≠ [] := by
  simp only [operator?, Option.map_eq_some_iff] at h
  obtain ⟨op, _, h⟩ := h
  cases h
  exact op.symbol_ne_nil

theorem literal?_ne_nil {s l : List Char} {k : TokenKind} (h : literal? s = some (k, l)) :
    l ≠ [] := by
  simp only [literal?] at h
  split at h <;> simp_all

theorem first?_ne_nil {a : Awaiting} {s l : List Char} {k : TokenKind}
    (h : first? a s = some (k, l)) : l ≠ [] := by
  cases a with
  | element => exact element?_ne_nil h
  | operator =>
    rcases Option.or_eq_some_iff.1 h with h | ⟨_, h⟩
    · exact operator?_ne_nil h
    · exact element?_ne_nil h
  | literal =>
    rcases Option.or_eq_some_iff.1 h with h | ⟨_, h⟩
    · exact literal?_ne_nil h
    · exact element?_ne_nil h

theorem first?_nil (a : Awaiting) : first? a [] = none := by
  cases a <;> rfl

/-- A token with its lexeme and the separators before it. -/
structure Piece where
  gap : List Char
  kind : TokenKind
  lexeme : List Char
deriving DecidableEq, Repr

def Piece.text (p : Piece) : List Char :=
  p.gap ++ p.lexeme

/-- A text cut into pieces as far as it goes: the separators after the last piece, and the rest,
which no piece can start with. -/
structure Cut where
  pieces : List Piece
  gap : List Char
  rest : List Char
deriving DecidableEq, Repr

namespace Cut

def prepend (p : Piece) (c : Cut) : Cut :=
  { c with pieces := p :: c.pieces }

/-- The text up to where cutting stopped. -/
def consumed (c : Cut) : List Char :=
  c.pieces.flatMap Piece.text ++ c.gap

end Cut

def cut (a : Awaiting) (s : List Char) : Cut :=
  let gap := s.takeWhile isSeparator
  let body := s.dropWhile isSeparator
  match _h : first? a body with
  | none => ⟨[], gap, body⟩
  | some (kind, lexeme) =>
    (cut (.after kind) (body.drop lexeme.length)).prepend ⟨gap, kind, lexeme⟩
termination_by s.length
decreasing_by
  have hl : lexeme.length ≠ 0 := fun hz => first?_ne_nil _h (List.length_eq_zero_iff.1 hz)
  have hb : (s.dropWhile isSeparator).length ≤ s.length :=
    (List.dropWhile_suffix isSeparator).length_le
  have hn : body ≠ [] := by
    intro hn
    rw [hn, first?_nil] at _h
    cases _h
  have hp : (s.dropWhile isSeparator).length ≠ 0 := fun hz => hn (List.length_eq_zero_iff.1 hz)
  simp only [List.length_drop]
  omega

/-! ## Tokens in their places -/

def spanAt (p : Text.Position) (lexeme : List Char) : Span :=
  ⟨p.offset, p.offset + Text.byteLength lexeme, p.line, p.column⟩

/-- The end of the text, as a token. -/
def endAt (p : Text.Position) : Token :=
  ⟨.eof, "", spanAt p []⟩

/-- The tokens of the pieces that begin at the byte `start`, and the end token past `gap`. -/
def place (tracker : Text.Tracker) (start : Nat) (gap : List Char) : List Piece → List Token
  | [] =>
    let stop := start + Text.byteLength gap
    let ((line, column), _) := tracker.locate stop
    [endAt ⟨stop, line, column⟩]
  | piece :: rest =>
    let first := start + Text.byteLength piece.gap
    let ((line, column), tracker) := tracker.locate first
    ⟨piece.kind, String.ofList piece.lexeme, spanAt ⟨first, line, column⟩ piece.lexeme⟩ ::
      place tracker (first + Text.byteLength piece.lexeme) gap rest

/-- The error at the character `c` that follows the text `before`. -/
def stuckAt (before : List Char) (c : Char) : SyntaxError :=
  let fault := if c = '\\' then .unterminatedEscape else .unexpectedCharacter c
  ⟨fault, spanAt (.behind before) [c]⟩

/-- Whether the text ends in a backslash that escapes nothing. -/
def hasDanglingBackslash (s : List Char) : Bool :=
  (s.reverse.takeWhile (· == '\\')).length % 2 == 1

/-- The tokens of a filter text, the end token last. A backslash at the very end that escapes
nothing is found before anything else. -/
def scan (input : String) : Except SyntaxError (List Token) :=
  let s := input.toList
  if hasDanglingBackslash s then .error (stuckAt s.dropLast '\\')
  else
    let c := cut .element s
    match c.rest with
    | [] => .ok (place (.start input) 0 c.gap c.pieces)
    | stuck :: _ => .error (stuckAt c.consumed stuck)

end Token

/-! ## A reader that keeps its last tokens -/

/-- The tokens of the text that was read last; none if it was rejected. -/
structure Lexer where
  kept : List Token

namespace Lexer

def empty : Lexer := ⟨[]⟩

def read (input : String) (_ : Lexer) : Except SyntaxError (List Token) × Lexer :=
  match Token.scan input with
  | .ok tokens => (.ok tokens, ⟨tokens⟩)
  | .error e => (.error e, empty)

end Lexer

end RecordFilter
