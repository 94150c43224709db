import RecordFilter.Number.Integer
import RecordFilter.Value

/-!
# Coercion

Reading a literal as a value of a type. A text is taken as it stands; every other type ignores
blanks around the literal.
-/

namespace RecordFilter

/-- Why a literal was rejected. -/
inductive CoercionFault where
  | integer (fault : IntegerFault)
  | float (fault : Double.Fault)
  | notANumber
  | decimal
  | boolean
  | uuid
  | date
  | timestamp
  | variant (known : List String)
  | custom (reason : String)
deriving DecidableEq, Repr

def CoercionFault.message : CoercionFault → String
  | integer fault => fault.message
  | float fault => fault.message
  | notANumber => "NaN is not comparable"
  | decimal => "invalid decimal number"
  | boolean => "expected true, false, 1 or 0"
  | uuid => "invalid UUID"
  | date => "expected a date formatted as YYYY-MM-DD"
  | timestamp => "expected an RFC 3339 timestamp, 'YYYY-MM-DD HH:MM:SS' or a date"
  | variant known => "expected one of: " ++ ", ".intercalate known
  | custom reason => reason

namespace Value

def readFloat (s : List Char) : Except CoercionFault Value :=
  match Double.read s with
  | .error fault => .error (.float fault)
  | .ok x => if x.isNaN then .error .notANumber else .ok (float x)

def readBoolean (s : List Char) : Except CoercionFault Value :=
  let word := Text.lowercase s
  if word = "true".toList || word = "1".toList then .ok (boolean true)
  else if word = "false".toList || word = "0".toList then .ok (boolean false)
  else .error .boolean

/-- An instant with an offset, a date and a time without one, or a date alone. -/
def readInstant? (s : List Char) : Option Instant :=
  (Instant.readWithOffset? s).or <| (Instant.readPlain? s).or <| (Date.read? s).map .midnight

/-- The first variant that the literal names, in any case of ASCII; an enumeration that lists no
variants takes any name. -/
def readVariant (variants : List String) (s : String) : Except CoercionFault Value :=
  if variants.isEmpty then .ok (variant s)
  else match variants.find? fun v => Text.asciiLowered v == Text.asciiLowered s with
    | some v => .ok (variant v)
    | none => .error (.variant variants)

def coerce (literal : String) : ValueType → Except CoercionFault Value
  | .string => .ok (string literal)
  | .int => (Integer.readInt64 body).map int |>.mapError .integer
  | .uint => (Integer.readUInt64 body).map uint |>.mapError .integer
  | .float => readFloat body
  | .decimal => orFault .decimal ((Decimal.read? body).map decimal)
  | .boolean => readBoolean body
  | .uuid => orFault .uuid ((Uuid.read? body).map uuid)
  | .date => orFault .date ((Date.read? body).map date)
  | .timestamp => orFault .timestamp ((readInstant? body).map timestamp)
  | .enumeration variants => readVariant variants (String.ofList body)
where
  body : List Char := Text.trim literal.toList
  orFault (fault : CoercionFault) : Option Value → Except CoercionFault Value
    | some v => .ok v
    | none => .error fault

end Value

end RecordFilter
