import RecordFilter.Filter.Parser
import RecordFilter.Mapper
import RecordFilter.Predicate

/-!
# Compiling filters

A filter tree becomes a predicate once every field is resolved and every literal is read; the first
condition from the left for which that fails decides the error. Groups leave no trace.
-/

namespace RecordFilter

/-- Why a well-formed filter does not fit a mapper. -/
inductive BuildError where
  | mapping (fault : MappingFault)
  | coercion (field : String) (expected : ValueType) (literal : String) (fault : CoercionFault)
  /-- The type is named as the message does; a test for null has the type `null`. -/
  | unsupportedOperator (field : String) (op : Operator) (typeName : String)
deriving DecidableEq, Repr

def BuildError.message : BuildError → String
  | mapping fault => fault.message
  | coercion field expected literal fault =>
    "Cannot convert '" ++ literal ++ "' to " ++ expected.name ++ " for field '" ++ field ++ "': " ++
      fault.message
  | unsupportedOperator field op typeName =>
    "Operator '" ++ op.symbol ++ "' is not supported for field '" ++ field ++ "' of type " ++
      typeName

/-- What keeps a filter text from being compiled. -/
inductive FilterError where
  | syntaxError (e : SyntaxError)
  | build (e : BuildError)
deriving DecidableEq, Repr

inductive FilterErrorKind where
  | syntaxError
  | mapping
  | valueCoercion
  | unsupportedOperator
deriving DecidableEq, Repr

namespace FilterError

def kind : FilterError → FilterErrorKind
  | syntaxError _ => .syntaxError
  | build (.mapping _) => .mapping
  | build (.coercion ..) => .valueCoercion
  | build (.unsupportedOperator ..) => .unsupportedOperator

def message : FilterError → String
  | syntaxError e => e.message
  | build e => e.message

/-- A name that is not resolved, as an error of a filter. -/
def ofMapping (fault : MappingFault) : FilterError :=
  build (.mapping fault)

end FilterError

namespace Filter

variable {α : Type}

/-- Whether fields of a type take an operator. -/
def supports (type : ValueType) (op : Operator) : Bool :=
  if op.isOrdering then type.supportsOrdering
  else if op.isTextMatch then type.isText
  else true

/-- The condition that asks whether a member is null. -/
def compileNullTest (c : Condition) (f : FieldMapping α) : Except BuildError (Predicate α) :=
  match c.operator with
  | .equal | .equalIgnoringCase => .ok (.isNull f.name f.accessor)
  | .notEqual => .ok (.isNotNull f.name f.accessor)
  | op => .error (.unsupportedOperator c.field op Literal.nullWord)

/-- Whether a condition ignores case: one on a text does under `=`, or if the settings say so. -/
def ignoresCase (config : Config) (type : ValueType) (op : Operator) : Bool :=
  type.isText && (op == .equalIgnoringCase || config.caseInsensitiveFiltering)

/-- The operand in small letters, if it is a text whose case does not count. -/
def foldOperand (ignoreCase : Bool) : Value → Value
  | .string s => .string (if ignoreCase then Text.lowered s else s)
  | v => v

/-- The condition that compares a member with a literal. -/
def compileComparison (config : Config) (c : Condition) (literal : String) (f : FieldMapping α) :
    Except BuildError (Predicate α) :=
  if supports f.type c.operator then
    match f.readLiteral literal with
    | .error fault => .error (.coercion c.field f.type literal fault)
    | .ok operand =>
      let ignoreCase := ignoresCase config f.type c.operator
      .ok (.compare ⟨f.name, f.accessor, c.operator, foldOperand ignoreCase operand, ignoreCase⟩)
  else .error (.unsupportedOperator c.field c.operator f.type.name)

/-- A null literal asks for null if the settings allow it, and is the word otherwise. -/
def compileCondition (m : Mapper α) (c : Condition) : Except BuildError (Predicate α) :=
  match m.resolve c.field with
  | .error fault => .error (.mapping fault)
  | .ok f =>
    match c.value with
    | .null =>
      if m.config.allowNullSearch then compileNullTest c f
      else compileComparison m.config c Literal.nullWord f
    | .text s => compileComparison m.config c s f

def compile (m : Mapper α) : Filter → Except BuildError (Predicate α)
  | comparison c => compileCondition m c
  | and l r => do return .and (← compile m l) (← compile m r)
  | or l r => do return .or (← compile m l) (← compile m r)
  | group f => compile m f

end Filter

namespace Mapper

variable {α : Type}

/-- Reads a filter text and compiles it. -/
def compile (m : Mapper α) (filter : String) : Except FilterError (Predicate α) := do
  let tree ← (Filter.parse filter).mapError .syntaxError
  (tree.compile m).mapError .build

def accepts (m : Mapper α) (filter : String) : Bool :=
  (m.compile filter).isOk

/-- The mapping of a name, with the error of a filter that uses it. -/
def require (m : Mapper α) (name : String) : Except FilterError (FieldMapping α) :=
  (m.resolve name).mapError .ofMapping

end Mapper

end RecordFilter
