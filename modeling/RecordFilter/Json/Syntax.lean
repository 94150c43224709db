import RecordFilter.Filter
import RecordFilter.Json
import RecordFilter.Token

/-!
# Tokens and filter trees as JSON

A kind with nothing in it is its name; any other is an object with its name as the only key.
-/

namespace RecordFilter

def Span.toJson (s : Span) : Json :=
  .object [("start", .ofNat s.start), ("end", .ofNat s.stop), ("line", .ofNat s.line),
    ("column", .ofNat s.column)]

def TokenKind.toJson : TokenKind → Json
  | field name => .object [("Field", .string name)]
  | operator op => .object [("Operator", .string op.name)]
  | value text => .object [("Value", .string text)]
  | kind => .string kind.name

def Token.toJson (t : Token) : Json :=
  .object [("kind", t.kind.toJson), ("lexeme", .string t.lexeme), ("span", t.span.toJson)]

def Literal.toJson : Literal → Json
  | text s => .object [("Text", .string s)]
  | null => .string "Null"

def Condition.toJson (c : Condition) : Json :=
  .object [("field", .string c.field), ("operator", .string c.operator.name),
    ("value", c.value.toJson), ("span", c.span.toJson)]

def Filter.toJson : Filter → Json
  | comparison c => .object [("Comparison", c.toJson)]
  | and l r => .object [("And", .array [l.toJson, r.toJson])]
  | or l r => .object [("Or", .array [l.toJson, r.toJson])]
  | group f => .object [("Group", f.toJson)]

end RecordFilter
