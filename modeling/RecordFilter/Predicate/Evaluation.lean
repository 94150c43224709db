import RecordFilter.Operator
import RecordFilter.Value

/-!
# Comparisons

Whether an operator holds between what a member holds and the operand of a condition. If case does
not count, the member is taken in small letters; the operand already is.
-/

namespace RecordFilter

namespace Operator

/-- Whether one text occurs in another. -/
def occursIn (s : List Char) : List Char → Bool
  | [] => s.isEmpty
  | c :: r => s.isPrefixOf (c :: r) || occursIn s r

/-- Whether two values are equal, or equal as texts whose case does not count. -/
def equalsFolded (ignoreCase : Bool) (member operand : Value) : Bool :=
  match ignoreCase, member.text?, operand.text? with
  | true, some m, some o => Text.lowered m == o
  | _, _, _ => member.equals operand

def compareFolded? (ignoreCase : Bool) (member operand : Value) : Option Ordering :=
  match ignoreCase, member.text?, operand.text? with
  | true, some m, some o => some (Value.compareTexts (Text.lowered m) o)
  | _, _, _ => member.compare? operand

/-- Whether both values are texts that `test` relates. -/
def testTexts (ignoreCase : Bool) (test : List Char → List Char → Bool)
    (member operand : Value) : Bool :=
  match member.text?, operand.text? with
  | some m, some o => test (if ignoreCase then Text.lowered m else m).toList o.toList
  | _, _ => false

def containsText (m o : List Char) : Bool := occursIn o m

def startsWithText (m o : List Char) : Bool := o.isPrefixOf m

def endsWithText (m o : List Char) : Bool := o.isSuffixOf m

/-- Whether the operator holds. Of an absent member just the negated operators hold. -/
def holds (op : Operator) (ignoreCase : Bool) (member operand : Value) : Bool :=
  if member.isNull then op.isNegated
  else
    match op with
    | equal | equalIgnoringCase => equalsFolded ignoreCase member operand
    | notEqual => !equalsFolded ignoreCase member operand
    | greater => compareFolded? ignoreCase member operand == some .gt
    | less => compareFolded? ignoreCase member operand == some .lt
    | greaterOrEqual =>
      match compareFolded? ignoreCase member operand with
      | some .gt | some .eq => true
      | _ => false
    | lessOrEqual =>
      match compareFolded? ignoreCase member operand with
      | some .lt | some .eq => true
      | _ => false
    | contains => testTexts ignoreCase containsText member operand
    | notContains => !testTexts ignoreCase containsText member operand
    | startsWith => testTexts ignoreCase startsWithText member operand
    | notStartsWith => !testTexts ignoreCase startsWithText member operand
    | endsWith => testTexts ignoreCase endsWithText member operand
    | notEndsWith => !testTexts ignoreCase endsWithText member operand

end Operator

end RecordFilter
