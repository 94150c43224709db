import RecordFilter.Accessor
import RecordFilter.Predicate.Evaluation

/-!
# Predicates

A compiled filter: comparisons of members with operands and tests for null, joined by
conjunction, disjunction and negation.
-/

namespace RecordFilter

/-- A condition with its accessor and the value of its literal. -/
structure Comparison (α : Type) where
  field : String
  accessor : Accessor α
  operator : Operator
  operand : Value
  ignoreCase : Bool

inductive Predicate (α : Type) where
  | compare (c : Comparison α)
  | isNull (field : String) (accessor : Accessor α)
  | isNotNull (field : String) (accessor : Accessor α)
  | and (l r : Predicate α)
  | or (l r : Predicate α)
  | not (p : Predicate α)

namespace Comparison

variable {α : Type}

def holds (c : Comparison α) (x : α) : Bool :=
  c.operator.holds c.ignoreCase (c.accessor.get x) c.operand

def describe (c : Comparison α) : String :=
  c.field ++ c.operator.symbol ++ c.operand.describe ++ (if c.ignoreCase then " (ci)" else "")

end Comparison

namespace Predicate

variable {α : Type}

def holds (p : Predicate α) (x : α) : Bool :=
  match p with
  | compare c => c.holds x
  | isNull _ accessor => (accessor.get x).isNull
  | isNotNull _ accessor => !(accessor.get x).isNull
  | and l r => l.holds x && r.holds x
  | or l r => l.holds x || r.holds x
  | not p => !p.holds x

/-- The number of comparisons and tests for null. -/
def conditions : Predicate α → Nat
  | compare _ | isNull .. | isNotNull .. => 1
  | and l r | or l r => l.conditions + r.conditions
  | not p => p.conditions

/-- A comparison alone has depth one. -/
def depth : Predicate α → Nat
  | compare _ | isNull .. | isNotNull .. => 1
  | and l r | or l r => max l.depth r.depth + 1
  | not p => p.depth + 1

def describeNode : Predicate α → String
  | compare c => c.describe
  | isNull field _ => field ++ " is null"
  | isNotNull field _ => field ++ " is not null"
  | and l r => "(" ++ l.describeNode ++ " AND " ++ r.describeNode ++ ")"
  | or l r => "(" ++ l.describeNode ++ " OR " ++ r.describeNode ++ ")"
  | not p => "NOT " ++ p.describeNode

def describe (p : Predicate α) : String :=
  "Predicate(" ++ p.describeNode ++ ")"

end Predicate

end RecordFilter
