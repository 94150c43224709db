import RecordFilter.Text.Blank
import RecordFilter.Text.Lowercase

/-!
# Value types

The declared type of a field. It decides how a literal is read and which operators the field
takes.
-/

namespace RecordFilter

inductive ValueType where
  | int
  | uint
  | float
  | decimal
  | string
  | boolean
  | uuid
  | date
  | timestamp
  | enumeration (variants : List String)
deriving DecidableEq, Repr

namespace ValueType

def name : ValueType → String
  | int => "int"
  | uint => "uint"
  | float => "float"
  | decimal => "decimal"
  | string => "string"
  | boolean => "boolean"
  | uuid => "uuid"
  | date => "date"
  | timestamp => "timestamp"
  | enumeration [] => "enum"
  | enumeration variants => "enum(" ++ ",".intercalate variants ++ ")"

/-- The word for the type without what it carries. -/
def label : ValueType → String
  | int => "Int"
  | uint => "Uint"
  | float => "Float"
  | decimal => "Decimal"
  | string => "String"
  | boolean => "Boolean"
  | uuid => "Uuid"
  | date => "Date"
  | timestamp => "Timestamp"
  | enumeration _ => "Enum"

/-! ## Reading names -/

/-- The other words for each type. -/
def ofWord? (word : String) : Option ValueType :=
  if word ∈ ["int", "integer", "long", "i32", "i64"] then some int
  else if word ∈ ["uint", "unsigned", "u32", "u64", "usize"] then some uint
  else if word ∈ ["float", "double", "f32", "f64", "number"] then some float
  else if word ∈ ["decimal", "numeric"] then some decimal
  else if word ∈ ["string", "str", "text", "varchar"] then some string
  else if word ∈ ["bool", "boolean"] then some boolean
  else if word ∈ ["uuid", "guid"] then some uuid
  else if word = "date" then some date
  else if word ∈ ["timestamp", "datetime"] then some timestamp
  else if word = "enum" then some (enumeration [])
  else none

/-- The texts between commas; there is always at least one. -/
def splitCommas : List Char → List (List Char)
  | [] => [[]]
  | c :: r =>
    if c = ',' then [] :: splitCommas r
    else match splitCommas r with
      | [] => [[c]]
      | s :: ss => (c :: s) :: ss

/-- The variants listed in parentheses; blanks alone list none. -/
def readVariants (inner : List Char) : List String :=
  let inner := Text.trim inner
  if inner.isEmpty then []
  else (splitCommas inner).map fun v => String.ofList (Text.trim v)

/-- The text in the parentheses of an enumeration, if that is what the name is. -/
def variantList? (s : List Char) : Option (List Char) :=
  if (s.take 5).map Char.toLower = "enum(".toList then
    match (s.drop 5).reverse with
    | ')' :: r => some r.reverse
    | _ => none
  else none

/-- Reads a name in any case, blanks around it ignored. -/
def ofName? (s : String) : Option ValueType :=
  let body := Text.trim s.toList
  match variantList? body with
  | some inner => some (enumeration (readVariants inner))
  | none => ofWord? (String.ofList (Text.lowercase body))

/-- The message for a name that is not read. -/
def unknownMessage (s : String) : String :=
  "Unknown value type: " ++ s

/-! ## Capabilities -/

/-- The types whose fields take `>`, `<`, `>=` and `<=`. -/
def supportsOrdering : ValueType → Bool
  | int | uint | float | decimal | string | date | timestamp => true
  | boolean | uuid | enumeration _ => false

/-- The type whose fields take the operators that look into texts. -/
def isText : ValueType → Bool
  | string => true
  | _ => false

def isNumeric : ValueType → Bool
  | int | uint | float | decimal => true
  | _ => false

end ValueType

end RecordFilter
