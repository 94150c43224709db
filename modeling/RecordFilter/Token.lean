import RecordFilter.Literal
import RecordFilter.Operator
import RecordFilter.Span

/-!
# Tokens

The pieces of filter text, each with the text it was cut from and its place.
-/

namespace RecordFilter

inductive TokenKind where
  | field (name : String)
  | operator (op : Operator)
  | value (text : String)
  | null
  | and
  | or
  | leftParen
  | rightParen
  | eof
deriving DecidableEq, Repr

namespace TokenKind

/-- How a message names the token. -/
def describe : TokenKind → String
  | field name => name
  | operator op => op.symbol
  | value text => "'" ++ text ++ "'"
  | null => Literal.nullWord
  | and => Connector.and.symbol
  | or => Connector.or.symbol
  | leftParen => "("
  | rightParen => ")"
  | eof => "end of filter"

/-- The word for the kind of token, without what it carries. -/
def name : TokenKind → String
  | field _ => "Field"
  | operator _ => "Operator"
  | value _ => "Value"
  | null => "Null"
  | and => "And"
  | or => "Or"
  | leftParen => "LeftParen"
  | rightParen => "RightParen"
  | eof => "Eof"

/-- The token that a literal becomes. -/
def ofLiteral : Literal → TokenKind
  | .text s => value s
  | .null => null

/-- The literal that a token carries, if it is one. -/
def literal? : TokenKind → Option Literal
  | value s => some (.text s)
  | null => some .null
  | _ => none

@[simp] theorem literal?_ofLiteral (l : Literal) : (ofLiteral l).literal? = some l := by
  cases l <;> rfl

/-- The connector that a token is, if it is one. -/
def connector? : TokenKind → Option Connector
  | and => some .and
  | or => some .or
  | _ => none

end TokenKind

structure Token where
  kind : TokenKind
  lexeme : String
  span : Span
deriving DecidableEq, Repr

end RecordFilter
