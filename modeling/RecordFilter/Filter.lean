import RecordFilter.Literal
import RecordFilter.Operator
import RecordFilter.Span

/-!
# Filter trees

A filter is a condition, two filters joined by a connector, or a filter in parentheses. Its text
form joins conditions by their connectors and puts a disjunction below a conjunction in
parentheses.
-/

namespace RecordFilter

structure Condition where
  field : String
  operator : Operator
  value : Literal
  span : Span
deriving DecidableEq, Repr

def Condition.render (c : Condition) : String :=
  c.field ++ c.operator.symbol ++ c.value.render

inductive Filter where
  | comparison (c : Condition)
  | and (l r : Filter)
  | or (l r : Filter)
  | group (f : Filter)
deriving DecidableEq, Repr

namespace Filter

def join : Connector → Filter → Filter → Filter
  | .and => and
  | .or => or

/-- A condition alone has depth one. -/
def depth : Filter → Nat
  | comparison _ => 1
  | and l r | or l r => max l.depth r.depth + 1
  | group f => f.depth + 1

@[simp] theorem depth_join (c : Connector) (l r : Filter) :
    (join c l r).depth = max l.depth r.depth + 1 := by
  cases c <;> rfl

/-- The conditions from left to right. -/
def conditions : Filter → List Condition
  | comparison c => [c]
  | and l r | or l r => l.conditions ++ r.conditions
  | group f => f.conditions

/-- The names of the fields in the order of their first use. -/
def fields (f : Filter) : List String :=
  f.conditions.foldl
    (fun names c => if c.field ∈ names then names else names ++ [c.field]) []

def inParens (s : String) : String :=
  "(" ++ s ++ ")"

def isOr : Filter → Bool
  | or _ _ => true
  | _ => false

def render : Filter → String
  | comparison c => c.render
  | and l r =>
    (if l.isOr then inParens l.render else l.render) ++ Connector.and.symbol ++
      (if r.isOr then inParens r.render else r.render)
  | or l r => l.render ++ Connector.or.symbol ++ r.render
  | group f => inParens f.render

end Filter

end RecordFilter
