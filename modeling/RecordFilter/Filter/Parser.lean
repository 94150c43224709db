import RecordFilter.Filter
import RecordFilter.Token.Lexer

/-!
# Reading filters from tokens

A disjunction is conjunctions joined by `|`, a conjunction is primaries joined by `&` or written
side by side, and a primary is a disjunction in parentheses or a field name, an operator and a
literal. Both chains lean to the left. A tree deeper than a limit is rejected where it gets too
deep, and so is a parenthesis inside as many others, before anything in it is read. For whole texts
the limit is `maxDepth`.
-/

namespace RecordFilter

namespace Filter

/-- A filter with its depth, which is kept so that no step has to compute it anew. -/
structure Measured where
  filter : Filter
  depth : Nat
  depth_eq : filter.depth = depth

namespace Measured

def comparison (c : Condition) : Measured :=
  ⟨.comparison c, 1, rfl⟩

def group (m : Measured) : Measured :=
  ⟨.group m.filter, m.depth + 1, by simp [Filter.depth, m.depth_eq]⟩

def join (c : Connector) (l r : Measured) : Measured :=
  ⟨.join c l.filter r.filter, max l.depth r.depth + 1, by simp [l.depth_eq, r.depth_eq]⟩

/-- The tree itself if it is no deeper than `limit`; else the error is laid at `span`. -/
def checked (limit : Nat) (m : Measured) (span : Span) : Except SyntaxError Measured :=
  if limit < m.depth then .error ⟨.tooDeep, span⟩ else .ok m

end Measured

/-- A filter that was read and the tokens after it, which are fewer than `bound`. -/
structure Parsed (bound : Nat) where
  result : Measured
  rest : List Token
  rest_lt : rest.length < bound

/-- What was read of fewer tokens was read of more. -/
def Parsed.weaken {m n : Nat} (p : Parsed m) (h : m ≤ n) : Parsed n :=
  ⟨p.result, p.rest, Nat.lt_of_lt_of_le p.rest_lt h⟩

/-- Whether an operand can begin here; where it cannot, a connector lacks its right operand. -/
def startsOperand : List Token → Bool
  | [] => false
  | t :: _ =>
    match t.kind with
    | .and | .or | .rightParen => false
    | _ => true

def startsWithRightParen : List Token → Bool
  | [] => false
  | t :: _ => t.kind = .rightParen

/-- Reads the operator and the literal of the condition on `field`. -/
def parseComparison (fin : Span) (field : String) (fieldSpan : Span) :
    (ts : List Token) → Except SyntaxError (Parsed (ts.length + 1))
  | [] => .error ⟨.missingOperator field, fin⟩
  | t :: ts =>
    match t.kind with
    | .operator op =>
      match ts with
      | [] => .error ⟨.missingValue field op, fin⟩
      | v :: rest =>
        match v.kind.literal? with
        | some value =>
          .ok ⟨.comparison ⟨field, op, value, fieldSpan.merge v.span⟩, rest, by simp; omega⟩
        | none => .error ⟨.missingValue field op, v.span⟩
    | _ => .error ⟨.missingOperator field, t.span⟩

/-- Reads the parenthesis that closes the group opened at `span`. -/
def parseClose (span : Span) :
    (ts : List Token) → Except SyntaxError { r : List Token // r.length < ts.length }
  | [] => .error ⟨.unmatchedLeft, span⟩
  | t :: ts =>
    if t.kind = .rightParen then .ok ⟨ts, by simp⟩ else .error ⟨.unmatchedLeft, span⟩

mutual

/-- Reads a condition, or a group inside `groups` others. No tree may be deeper than `limit`, and
the text ends at `fin`. -/
def parsePrimary (limit : Nat) (fin : Span) (groups : Nat) :
    (ts : List Token) → Except SyntaxError (Parsed ts.length)
  | [] => .error ⟨.unexpectedEnd, fin⟩
  | t :: ts =>
    match t.kind with
    | .leftParen =>
      if startsWithRightParen ts then .error ⟨.emptyGroup, t.span⟩
      else if limit ≤ groups then .error ⟨.tooDeep, t.span⟩
      else do
        let inner ← parseOr limit fin (groups + 1) ts
        let ⟨rest, h⟩ ← parseClose t.span inner.rest
        let m ← inner.result.group.checked limit t.span
        return ⟨m, rest, by have := inner.rest_lt; simp; omega⟩
    | .field name => parseComparison fin name t.span ts
    | .rightParen => .error ⟨.unmatchedRight, t.span⟩
    | .and => .error ⟨.missingLeftOperand .and, t.span⟩
    | .or => .error ⟨.missingLeftOperand .or, t.span⟩
    | .operator op => .error ⟨.missingFieldName op, t.span⟩
    | .value _ | .null => .error ⟨.missingCondition t.kind, t.span⟩
    | .eof => .error ⟨.unexpectedEnd, t.span⟩
termination_by ts => (ts.length, 0)

/-- Reads primaries joined by `&` or side by side. -/
def parseAnd (limit : Nat) (fin : Span) (groups : Nat) (ts : List Token) :
    Except SyntaxError (Parsed ts.length) := do
  let first ← parsePrimary limit fin groups ts
  let p ← parseAndRest limit fin groups first.result first.rest
  return p.weaken first.rest_lt
termination_by (ts.length, 1)
decreasing_by
  · exact .right _ (by decide)
  · exact .left _ _ first.rest_lt

/-- Joins the primaries that follow to the filter on their left. -/
def parseAndRest (limit : Nat) (fin : Span) (groups : Nat) (left : Measured) :
    (ts : List Token) → Except SyntaxError (Parsed (ts.length + 1))
  | [] => .ok ⟨left, [], by simp⟩
  | t :: ts =>
    match t.kind with
    | .and =>
      if startsOperand ts then do
        let right ← parsePrimary limit fin groups ts
        let m ← (left.join .and right.result).checked limit t.span
        let p ← parseAndRest limit fin groups m right.rest
        return p.weaken (by have := right.rest_lt; simp; omega)
      else .error ⟨.missingRightOperand .and, t.span⟩
    | .leftParen | .field _ => do
      let right ← parsePrimary limit fin groups (t :: ts)
      let m ← (left.join .and right.result).checked limit t.span
      let p ← parseAndRest limit fin groups m right.rest
      return p.weaken (by have := right.rest_lt; omega)
    | _ => .ok ⟨left, t :: ts, by simp⟩
termination_by ts => (ts.length, 2)
decreasing_by
  · exact .left _ _ (Nat.lt_succ_self _)
  · exact .left _ _ (Nat.lt_succ_of_lt right.rest_lt)
  · exact .right _ (by decide)
  · exact .left _ _ right.rest_lt
  · exact .left _ _ right.rest_lt

/-- Reads conjunctions joined by `|`. -/
def parseOr (limit : Nat) (fin : Span) (groups : Nat) (ts : List Token) :
    Except SyntaxError (Parsed ts.length) := do
  let first ← parseAnd limit fin groups ts
  let p ← parseOrRest limit fin groups first.result first.rest
  return p.weaken first.rest_lt
termination_by (ts.length, 3)
decreasing_by
  · exact .right _ (by decide)
  · exact .left _ _ first.rest_lt

/-- Joins the conjunctions that follow to the filter on their left. -/
def parseOrRest (limit : Nat) (fin : Span) (groups : Nat) (left : Measured) :
    (ts : List Token) → Except SyntaxError (Parsed (ts.length + 1))
  | [] => .ok ⟨left, [], by simp⟩
  | t :: ts =>
    if t.kind = .or then
      if startsOperand ts then do
        let right ← parseAnd limit fin groups ts
        let m ← (left.join .or right.result).checked limit t.span
        let p ← parseOrRest limit fin groups m right.rest
        return p.weaken (by have := right.rest_lt; simp; omega)
      else .error ⟨.missingRightOperand .or, t.span⟩
    else .ok ⟨left, t :: ts, by simp⟩
termination_by ts => (ts.length, 4)
decreasing_by
  · exact .left _ _ (Nat.lt_succ_self _)
  · exact .left _ _ (Nat.lt_succ_of_lt right.rest_lt)

end

/-! ## Whole texts -/

/-- The depth of the deepest tree that is read. -/
def maxDepth : Nat := 512

/-- The tokens before the first end token. -/
def beforeEnd (ts : List Token) : List Token :=
  ts.takeWhile (·.kind ≠ .eof)

/-- Where the text ends: at the first end token, else past the last token. -/
def endSpan (ts : List Token) : Span :=
  match ts.find? (·.kind = .eof) with
  | some t => t.span
  | none =>
    match ts.getLast? with
    | some t => t.span.past
    | none => ⟨0, 0, 1, 1⟩

/-- Reads a whole sequence of tokens, up to its first end token. -/
def ofTokens (ts : List Token) : Except SyntaxError Filter :=
  let fin := endSpan ts
  match beforeEnd ts with
  | [] => .error ⟨.emptyFilter, fin⟩
  | body => do
    let p ← parseOr maxDepth fin 0 body
    match p.rest with
    | [] => return p.result.filter
    | t :: _ =>
      .error ⟨if t.kind = .rightParen then .unmatchedRight else .trailing t.kind, t.span⟩

/-- Reads a filter text. -/
def parse (input : String) : Except SyntaxError Filter := do
  ofTokens (← Token.scan input)

end Filter

end RecordFilter
