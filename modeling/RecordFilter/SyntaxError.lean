import RecordFilter.Text.Position
import RecordFilter.Token

/-!
# Syntax errors

What can be wrong with a filter text, where, and the report that shows the place.
-/

namespace RecordFilter

/-- What is wrong with a filter text. -/
inductive SyntaxFault where
  | unterminatedEscape
  | unexpectedCharacter (c : Char)
  | unexpectedEnd
  | emptyFilter
  | emptyGroup
  | unmatchedLeft
  | unmatchedRight
  | tooDeep
  | trailing (kind : TokenKind)
  | missingLeftOperand (connector : Connector)
  | missingRightOperand (connector : Connector)
  | missingFieldName (op : Operator)
  | missingCondition (literal : TokenKind)
  | missingOperator (field : String)
  | missingValue (field : String) (op : Operator)
deriving DecidableEq, Repr

def SyntaxFault.message : SyntaxFault → String
  | unterminatedEscape => "unterminated escape sequence"
  | unexpectedCharacter c => "unexpected character '" ++ c.toString ++ "'"
  | unexpectedEnd => "unexpected end of filter"
  | emptyFilter => "empty filter"
  | emptyGroup => "empty group '()'"
  | unmatchedLeft => "unmatched '('"
  | unmatchedRight => "unmatched ')'"
  | tooDeep => "filter nested too deeply"
  | trailing kind => "unexpected " ++ kind.describe ++ " after complete condition"
  | missingLeftOperand connector =>
    "connector '" ++ connector.symbol ++ "' is missing its left operand"
  | missingRightOperand connector =>
    "connector '" ++ connector.symbol ++ "' is missing its right operand"
  | missingFieldName op => "operator '" ++ op.symbol ++ "' is missing its field name"
  | missingCondition literal =>
    "value " ++ literal.describe ++ " is missing its field name and operator"
  | missingOperator field => "expected an operator after field '" ++ field ++ "'"
  | missingValue field op => "condition '" ++ field ++ op.symbol ++ "' is missing its value"

structure SyntaxError where
  fault : SyntaxFault
  span : Span
deriving DecidableEq, Repr

namespace SyntaxError

def heading (e : SyntaxError) : String :=
  "Syntax error at line " ++ toString e.span.line ++ ", column " ++ toString e.span.column ++ ":"

def message (e : SyntaxError) : String :=
  e.heading ++ " " ++ e.fault.message

/-- The line of the input that the report shows; empty where the input has no such line. -/
def shownLine (e : SyntaxError) (input : String) : List Char :=
  ((Text.lines input.toList)[e.span.line - 1]?).getD []

/-- The heading, the line, a caret below the column, and what is wrong. -/
def report (e : SyntaxError) (input : String) : String :=
  e.heading ++ "\n" ++ String.ofList (e.shownLine input) ++ "\n" ++
    String.ofList (List.replicate (e.span.column - 1) ' ') ++ "^\n" ++ e.fault.message

end SyntaxError

end RecordFilter
