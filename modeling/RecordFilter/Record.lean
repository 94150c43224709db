import RecordFilter.Json.Printer
import RecordFilter.Mapper

/-!
# JSON records

Records are JSON objects. A schema gives the fields their types; it is read from a text or inferred
from a record, and a mapper reads each of its fields along a path of keys.
-/

namespace RecordFilter

abbrev Record := Json.Object

/-- Field names with their types, by ascending name. -/
abbrev Schema := List (String × ValueType)

/-- What is wrong with the texts that a mapper of records is made from. -/
inductive RecordFault where
  | json
  | notAnArray
  | notAnObject (index : Nat) (item : Json)
  | unknownType (name : String)
  | registration (fault : RegistrationFault)

def RecordFault.message : RecordFault → String
  | json => "Invalid JSON"
  | notAnArray => "Invalid input: expected a JSON array of objects"
  | notAnObject index item =>
    "Invalid input: item " ++ toString index ++ " is not an object: " ++ item.compact
  | unknownType name => "Invalid schema: " ++ ValueType.unknownMessage name
  | registration fault => "Invalid mapping: " ++ fault.message

namespace Record

/-- Takes the items for objects, which are numbered from `index`. -/
def ofItems (index : Nat) : List Json → Except RecordFault (List Record)
  | [] => .ok []
  | .object members :: items => do return members :: (← ofItems (index + 1) items)
  | item :: _ => .error (.notAnObject index item)

/-- Reads an array of objects. -/
def readAll (text : String) : Except RecordFault (List Record) :=
  match Json.read? text with
  | none => .error .json
  | some (.array items) => ofItems 0 items
  | some _ => .error .notAnArray

end Record

namespace Value

/-- A scalar of JSON as a value; an array or an object becomes its text. -/
def ofJson : Json → Value
  | .null => null
  | .bool b => boolean b
  | .number (.negative n) => int n
  | .number (.natural n) => if n.toNat < Nat.pow 2 63 then int (.ofNat n.toNat) else uint n
  | .number (.double x) => float x
  | .string s => string s
  | j => string j.compact

end Value

namespace Schema

/-- Sets the type of a field. -/
def insert (name : String) (type : ValueType) : Schema → Schema
  | [] => [(name, type)]
  | (n, t) :: s =>
    match compare name n with
    | .lt => (name, type) :: (n, t) :: s
    | .eq => (name, type) :: s
    | .gt => (n, t) :: insert name type s

def ofFields (fields : List (String × ValueType)) : Schema :=
  fields.foldl (fun s f => insert f.1 f.2 s) []

/-! ## Reading -/

/-- Reads the members of an object of strings. -/
def readMembers? : List (List Json.RawChar × Json.Raw) → Option (List (String × String))
  | [] => some []
  | (k, .string v) :: ms => do
    return (String.ofList (← Json.decode? k), String.ofList (← Json.decode? v)) ::
      (← readMembers? ms)
  | _ :: _ => none

/-- The names of the types by field, sorted, the later of two for one field. -/
def sortNames (members : List (String × String)) : List (String × String) :=
  (members.foldl (fun o m => Json.Object.insert m.1 (.string m.2) o) []).filterMap fun
    | (k, .string v) => some (k, v)
    | _ => none

def readTypes : List (String × String) → Except RecordFault Schema
  | [] => .ok []
  | (field, name) :: rest =>
    match ValueType.ofName? name with
    | none => .error (.unknownType name)
    | some type => do return (field, type) :: (← readTypes rest)

/-- Reads an object that gives each field the name of a type. -/
def read (text : String) : Except RecordFault Schema :=
  match Json.Raw.ofText? text with
  | some (.object members) =>
    match readMembers? members with
    | some ms => readTypes (sortNames ms)
    | none => .error .json
  | _ => .error .json

/-! ## Inference -/

/-- The name of a member below a path; the path of the record itself is empty. -/
def memberName (path key : String) : String :=
  if path.isEmpty then key else path ++ "." ++ key

mutual

/-- The fields of a member. A nested object is entered as long as `depth` allows; nulls and arrays
count as texts. -/
def inferMember (depth : Nat) (name : String) : Json → List (String × ValueType)
  | .bool _ => [(name, .boolean)]
  | .number (.negative _) => [(name, .int)]
  | .number (.natural n) => [(name, if n.toNat < Nat.pow 2 63 then .int else .uint)]
  | .number (.double _) => [(name, .float)]
  | .object members => if depth = 0 then [] else inferMembers (depth - 1) name members
  | .null | .string _ | .array _ => [(name, .string)]

def inferMembers (depth : Nat) (path : String) :
    List (String × Json) → List (String × ValueType)
  | [] => []
  | (key, value) :: ms =>
    inferMember depth (memberName path key) value ++ inferMembers depth path ms

end

/-- The schema of a record. -/
def infer (depth : Nat) (r : Record) : Schema :=
  ofFields (inferMembers depth "" r)

/-- The schema of the first record, if there is one. -/
def inferFirst (depth : Nat) : List Record → Schema
  | [] => []
  | r :: _ => infer depth r

end Schema

namespace Record

/-! ## Reading members -/

/-- The texts between dots; there is always at least one. -/
def splitDots : List Char → List (List Char)
  | [] => [[]]
  | c :: r =>
    if c = '.' then [] :: splitDots r
    else match splitDots r with
      | [] => [[c]]
      | s :: ss => (c :: s) :: ss

def pathOf (field : String) : List String :=
  (splitDots field.toList).map String.ofList

/-- What stands at the end of a path of keys. -/
def lookup? (r : Record) : List String → Option Json
  | [] => none
  | [key] => r.get? key
  | key :: path =>
    match r.get? key with
    | some (.object inner) => lookup? inner path
    | _ => none

/-- A text that holds a value of another type is read as such; if it cannot be, it stays a text. -/
def convert (target : ValueType) (j : Json) : Value :=
  match j with
  | .string s =>
    if target = .string then .string s
    else match Value.coerce s target with
      | .ok v => v
      | .error _ => .string s
  | j => .ofJson j

/-- The value of a field; null if its path leads nowhere. -/
def readField (field : String) (target : ValueType) (r : Record) : Value :=
  match lookup? r (pathOf field) with
  | some j => convert target j
  | none => .null

end Record

namespace Schema

def accessor (field : String) (type : ValueType) : Accessor Record :=
  .keyed "record" field (Record.readField field type)

def mapping (f : String × ValueType) : FieldMapping Record :=
  ⟨f.1, accessor f.1 f.2, f.2, none⟩

/-- Registers fields one after another. -/
def registerAll (m : Mapper Record) :
    List (FieldMapping Record) → Except RegistrationFault (Mapper Record)
  | [] => .ok m
  | f :: fs => do registerAll (← m.register f) fs

/-- A mapper with the fields of a schema. -/
def mapper (s : Schema) (id : Nat) (config : Config) : Except RecordFault (Mapper Record) :=
  (registerAll (.empty id config) (s.map mapping)).mapError .registration

end Schema

/-- Records with the types of their fields and the settings they are filtered under. -/
structure Dataset where
  config : Config
  records : List Record
  schema : Schema

def Dataset.mapper (d : Dataset) (id : Nat) : Except RecordFault (Mapper Record) :=
  d.schema.mapper id d.config

end RecordFilter
