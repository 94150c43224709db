/-!
# Operators and connectors

The thirteen comparison operators with their symbols, and the two connectors between conditions.
-/

namespace RecordFilter

inductive Operator where
  | equal
  | notEqual
  | greater
  | less
  | greaterOrEqual
  | lessOrEqual
  | contains
  | notContains
  | startsWith
  | endsWith
  | notStartsWith
  | notEndsWith
  | equalIgnoringCase
deriving DecidableEq, Repr

namespace Operator

def all : List Operator :=
  [equal, notEqual, greater, less, greaterOrEqual, lessOrEqual, contains, notContains, startsWith,
    endsWith, notStartsWith, notEndsWith, equalIgnoringCase]

theorem mem_all (op : Operator) : op ∈ all := by
  cases op <;> simp [all]

def symbol : Operator → String
  | equal => "=="
  | notEqual => "!="
  | greater => ">"
  | less => "<"
  | greaterOrEqual => ">="
  | lessOrEqual => "<="
  | contains => "=*"
  | notContains => "!*"
  | startsWith => "^*"
  | endsWith => "*$"
  | notStartsWith => "!^"
  | notEndsWith => "!$"
  | equalIgnoringCase => "="

/-- The word for the operator in a printed tree. -/
def name : Operator → String
  | equal => "Equal"
  | notEqual => "NotEqual"
  | greater => "GreaterThan"
  | less => "LessThan"
  | greaterOrEqual => "GreaterOrEqual"
  | lessOrEqual => "LessOrEqual"
  | contains => "Contains"
  | notContains => "NotContains"
  | startsWith => "StartsWith"
  | endsWith => "EndsWith"
  | notStartsWith => "NotStartsWith"
  | notEndsWith => "NotEndsWith"
  | equalIgnoringCase => "CaseInsensitiveEqual"

def ofSymbol? (s : String) : Option Operator :=
  all.find? (·.symbol == s)

theorem ofSymbol?_symbol (op : Operator) : ofSymbol? op.symbol = some op := by
  cases op <;> decide

/-- The operators that ask which of two values comes first. -/
def isOrdering : Operator → Bool
  | greater | less | greaterOrEqual | lessOrEqual => true
  | _ => false

/-- The operators that look for one text in another. -/
def isTextMatch : Operator → Bool
  | contains | notContains | startsWith | endsWith | notStartsWith | notEndsWith => true
  | _ => false

def isEquality : Operator → Bool
  | equal | notEqual | equalIgnoringCase => true
  | _ => false

/-- The operators that hold of an absent value. -/
def isNegated : Operator → Bool
  | notEqual | notContains | notStartsWith | notEndsWith => true
  | _ => false

/-- The longest symbol that the text begins with. -/
def longestAt? : List Char → Option Operator
  | '=' :: '=' :: _ => some equal
  | '=' :: '*' :: _ => some contains
  | '=' :: _ => some equalIgnoringCase
  | '!' :: '=' :: _ => some notEqual
  | '!' :: '*' :: _ => some notContains
  | '!' :: '^' :: _ => some notStartsWith
  | '!' :: '$' :: _ => some notEndsWith
  | '>' :: '=' :: _ => some greaterOrEqual
  | '>' :: _ => some greater
  | '<' :: '=' :: _ => some lessOrEqual
  | '<' :: _ => some less
  | '^' :: '*' :: _ => some startsWith
  | '*' :: '$' :: _ => some endsWith
  | _ => none

theorem symbol_ne_nil (op : Operator) : op.symbol.toList ≠ [] := by
  cases op <;> decide

theorem longestAt?_symbol (op : Operator) : longestAt? op.symbol.toList = some op := by
  cases op <;> decide

end Operator

/-- What stands between two conditions. -/
inductive Connector where
  | and
  | or
deriving DecidableEq, Repr

def Connector.symbol : Connector → String
  | and => "&"
  | or => "|"

end RecordFilter
