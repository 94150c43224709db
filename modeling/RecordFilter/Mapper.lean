import RecordFilter.Catalog
import RecordFilter.Mapper.Config
import RecordFilter.Value.Coercion

/-!
# Mappers

A mapper gives field names to accessors. Each name has a key, which is the name itself or, if case
does not count, its form in small letters. A key is mapped, excluded or neither, and the version
counts the changes.
-/

namespace RecordFilter

/-- A reader of literals that replaces coercion. Two are the same if they were defined in the same
place. -/
structure LiteralReader where
  origin : String
  read : String → Except CoercionFault Value

/-- A reader shows nothing of what it does. -/
def LiteralReader.describe (_ : LiteralReader) : String :=
  "ValueParser"

/-- What a field name stands for. -/
structure FieldMapping (α : Type) where
  name : String
  accessor : Accessor α
  type : ValueType
  reader : Option LiteralReader

namespace FieldMapping

variable {α : Type}

def ofField (f : MemberField α) : FieldMapping α :=
  ⟨f.name, f.accessor, f.type, none⟩

def read (m : FieldMapping α) (x : α) : Value :=
  m.accessor.get x

/-- Reads a literal for this field. -/
def readLiteral (m : FieldMapping α) (literal : String) : Except CoercionFault Value :=
  match m.reader with
  | some reader => reader.read literal
  | none => Value.coerce literal m.type

/-- Whether two mappings differ at most in the spelling of the name. -/
def sameAs (m n : FieldMapping α) : Bool :=
  m.accessor.sameAs n.accessor && m.type == n.type &&
    m.reader.map LiteralReader.origin == n.reader.map LiteralReader.origin

/-- How a description of the mapping shows a type. -/
def describeType : ValueType → String
  | .enumeration variants => "Enum([" ++ Text.quotedList variants ++ "])"
  | type => type.label

def describe (m : FieldMapping α) : String :=
  "FieldMapping \x7b name: " ++ Text.quoted m.name ++ ", value_type: " ++ describeType m.type ++
    ", custom_parser: " ++ (if m.reader.isSome then "true" else "false") ++ " \x7d"

end FieldMapping

/-- Why a name stands for nothing. -/
inductive MappingFault where
  | unknownField (name : String)
  | excludedField (name : String)
deriving DecidableEq, Repr

def MappingFault.message : MappingFault → String
  | unknownField name => "Unknown field: " ++ name
  | excludedField name => "Field '" ++ name ++ "' is excluded from filtering"

/-- Why a mapping was not taken. -/
inductive RegistrationFault where
  | conflicting (name : String)
  | excluded (name : String)
deriving DecidableEq, Repr

def RegistrationFault.message : RegistrationFault → String
  | conflicting name =>
    "Field '" ++ name ++ "' is already mapped to a different accessor, value type or parser"
  | excluded name => "Field '" ++ name ++ "' is excluded and cannot be mapped"

structure Mapper (α : Type) where
  id : Nat
  version : Nat
  config : Config
  mappings : List (String × FieldMapping α)
  excluded : List String

namespace Mapper

variable {α : Type}

def empty (id : Nat) (config : Config) : Mapper α :=
  ⟨id, 0, config, [], []⟩

/-! ## Keys -/

def keyWith (config : Config) (name : String) : String :=
  if config.caseSensitiveFields then name else Text.asciiLowered name

def key (m : Mapper α) (name : String) : String :=
  keyWith m.config name

def mapping? (m : Mapper α) (key : String) : Option (FieldMapping α) :=
  m.mappings.lookup key

def isMappedKey (m : Mapper α) (key : String) : Bool :=
  (m.mapping? key).isSome

def isExcludedKey (m : Mapper α) (key : String) : Bool :=
  m.excluded.contains key

/-- Maps a key, in place of what it was mapped to. -/
def setMapping (key : String) (f : FieldMapping α) :
    List (String × FieldMapping α) → List (String × FieldMapping α)
  | [] => [(key, f)]
  | (k, g) :: rest => if k = key then (key, f) :: rest else (k, g) :: setMapping key f rest

def put (m : Mapper α) (key : String) (f : FieldMapping α) : Mapper α :=
  { m with mappings := setMapping key f m.mappings }

def drop (m : Mapper α) (key : String) : Mapper α :=
  { m with mappings := m.mappings.filter (·.1 ≠ key) }

def refuse (m : Mapper α) (key : String) : Mapper α :=
  if m.isExcludedKey key then m else { m with excluded := m.excluded ++ [key] }

def allow (m : Mapper α) (key : String) : Mapper α :=
  { m with excluded := m.excluded.filter (· ≠ key) }

def bump (m : Mapper α) : Mapper α :=
  { m with version := m.version + 1 }

/-! ## Questions -/

def resolve (m : Mapper α) (name : String) : Except MappingFault (FieldMapping α) :=
  let key := m.key name
  if m.isExcludedKey key then .error (.excludedField name)
  else match m.mapping? key with
    | some f => .ok f
    | none => .error (.unknownField name)

def contains (m : Mapper α) (name : String) : Bool :=
  m.isMappedKey (m.key name)

def isExcluded (m : Mapper α) (name : String) : Bool :=
  m.isExcludedKey (m.key name)

def size (m : Mapper α) : Nat :=
  m.mappings.length

def isEmpty (m : Mapper α) : Bool :=
  m.mappings.isEmpty

/-- The mapped fields by ascending name. -/
def fields (m : Mapper α) : List (FieldMapping α) :=
  (m.mappings.map (·.2)).mergeSort fun f g => f.name ≤ g.name

def names (m : Mapper α) : List String :=
  m.fields.map FieldMapping.name

/-! ## Changes -/

/-- Maps a name that is free. To map it again to the same changes nothing; any other mapping of a
name that is taken is refused, and so is one of an excluded name. -/
def register (m : Mapper α) (f : FieldMapping α) : Except RegistrationFault (Mapper α) :=
  let key := m.key f.name
  if m.isExcludedKey key then .error (.excluded f.name)
  else match m.mapping? key with
    | some g => if g.sameAs f then .ok m else .error (.conflicting f.name)
    | none => .ok (m.put key f).bump

/-- Maps a name whatever it was before. -/
def override (m : Mapper α) (f : FieldMapping α) : Mapper α :=
  let key := m.key f.name
  ((m.allow key).put key f).bump

/-- Frees a name, and says whether it was mapped. -/
def remove (m : Mapper α) (name : String) : Bool × Mapper α :=
  let key := m.key name
  if m.isMappedKey key then (true, (m.drop key).bump) else (false, m)

/-- Frees a name and refuses it from now on. -/
def exclude (m : Mapper α) (name : String) : Mapper α :=
  let key := m.key name
  ((m.drop key).refuse key).bump

/-- What one field of a member table does to the mapper: it is mapped, excluded or passed over.
An excluded key stays so, and unless `overriding` a mapped one does. -/
inductive Generation where
  | skip
  | exclude
  | put
deriving DecidableEq, Repr

def generation (m : Mapper α) (overriding : Bool) (f : MemberField α) : Generation :=
  let key := m.key f.name
  if m.isExcludedKey key then .skip
  else if f.excluded then if m.isMappedKey key then .skip else .exclude
  else if !overriding && m.isMappedKey key then .skip
  else .put

/-- The mapper after one field, and how many mappings it set. -/
def generateField (overriding : Bool) (s : Nat × Mapper α) (f : MemberField α) :
    Nat × Mapper α :=
  match s.2.generation overriding f with
  | .skip => s
  | .exclude => (s.1, s.2.refuse (s.2.key f.name))
  | .put => (s.1 + 1, s.2.put (s.2.key f.name) (.ofField f))

/-- Maps the fields of a member table in their order, and counts the mappings that were set. The
version rises if there were any. -/
def generateCounted (m : Mapper α) (overriding : Bool) (fields : List (MemberField α)) :
    Nat × Mapper α :=
  let (added, m) := fields.foldl (generateField overriding) (0, m)
  (added, if 0 < added then m.bump else m)

def generate (m : Mapper α) (overriding : Bool) (fields : List (MemberField α)) : Mapper α :=
  (m.generateCounted overriding fields).2

/-! ## Text form -/

/-- The mapper by its parts, under a given name for its number. -/
def describeAs (label : String) (m : Mapper α) : String :=
  "Mapper \x7b id: " ++ label ++ ", version: " ++ toString m.version ++ ", fields: [" ++
    Text.quotedList m.names ++ "], excluded: \x7b" ++
    Text.quotedList (m.excluded.mergeSort (· ≤ ·)) ++ "\x7d \x7d"

def describe (m : Mapper α) : String :=
  m.describeAs (toString m.id)

end Mapper

/-- The fields of a kind of record, as deep as the mapper's settings say. -/
def Catalog.fieldsFor (c : Catalog) (k : c.Kind) (config : Config) :
    List (MemberField (c.Rec k)) :=
  c.flatten config.maxNestingDepth k

end RecordFilter
