import RecordFilter.Calendar.Instant
import RecordFilter.Number.Decimal
import RecordFilter.Number.Double.Printer
import RecordFilter.Text.Quoted
import RecordFilter.Uuid
import RecordFilter.Value.Type

/-!
# Values

What a member of a record holds, and what a literal is read as. Values have a natural order within
families of comparable kinds: numbers of all four kinds, texts and variants, dates and instants,
booleans, and UUIDs.
-/

namespace RecordFilter

inductive Value where
  | int (n : Int64)
  | uint (n : UInt64)
  | float (x : Double)
  | decimal (d : Decimal)
  | string (s : String)
  | boolean (b : Bool)
  | uuid (u : Uuid)
  | date (d : Date)
  | timestamp (i : Instant)
  | variant (name : String)
  | null
deriving DecidableEq

namespace Value

def isNull : Value → Bool
  | null => true
  | _ => false

/-- Null has no type. A variant does not know its enumeration. -/
def type? : Value → Option ValueType
  | int _ => some .int
  | uint _ => some .uint
  | float _ => some .float
  | decimal _ => some .decimal
  | string _ => some .string
  | boolean _ => some .boolean
  | uuid _ => some .uuid
  | date _ => some .date
  | timestamp _ => some .timestamp
  | variant _ => some (.enumeration [])
  | null => none

/-! ## Readings -/

/-- The nearest double of a number. -/
def double? : Value → Option Double
  | int n => some (.ofInt n.toInt)
  | uint n => some (.ofInt n.toNat)
  | float x => some x
  | decimal d => some d.toDouble
  | _ => none

/-- The exact decimal of a number, if there is one. -/
def decimal? : Value → Option Decimal
  | int n => some (.ofInt n.toInt)
  | uint n => some (.ofInt n.toNat)
  | float x => Decimal.ofDouble? x
  | decimal d => some d
  | _ => none

def text? : Value → Option String
  | string s | variant s => some s
  | _ => none

def bool? : Value → Option Bool
  | boolean b => some b
  | _ => none

/-! ## Order -/

/-- Texts are ordered as their bytes are, and so as their characters are. -/
def compareTexts (a b : String) : Ordering :=
  compare a b

/-- Integers compare exactly, an integer with a double as doubles, and anything with a decimal
exactly. A date stands for its midnight. What is of different families compares with nothing, and
so does a double that is no number. -/
def compare? : Value → Value → Option Ordering
  | int a, int b => some (compare a.toInt b.toInt)
  | uint a, uint b => some (compare a.toNat b.toNat)
  | int a, uint b => some (compare a.toInt (b.toNat : Int))
  | uint a, int b => some (compare (a.toNat : Int) b.toInt)
  | float a, float b => a.compare? b
  | int a, float b => (Double.ofInt a.toInt).compare? b
  | uint a, float b => (Double.ofInt a.toNat).compare? b
  | float a, int b => a.compare? (.ofInt b.toInt)
  | float a, uint b => a.compare? (.ofInt b.toNat)
  | decimal a, decimal b => some (a.cmp b)
  | decimal a, int b => some (a.cmp (.ofInt b.toInt))
  | decimal a, uint b => some (a.cmp (.ofInt b.toNat))
  | decimal a, float b => (Decimal.ofDouble? b).map a.cmp
  | int a, decimal b => some ((Decimal.ofInt a.toInt).cmp b)
  | uint a, decimal b => some ((Decimal.ofInt a.toNat).cmp b)
  | float a, decimal b => (Decimal.ofDouble? a).map (·.cmp b)
  | string a, string b => some (compareTexts a b)
  | string a, variant b => some (compareTexts a b)
  | variant a, string b => some (compareTexts a b)
  | variant a, variant b => some (compareTexts a b)
  | boolean a, boolean b => some (compare a b)
  | uuid a, uuid b => some (compare a.number.val b.number.val)
  | date a, date b => some (a.cmp b)
  | timestamp a, timestamp b => some (a.cmp b)
  | date a, timestamp b => some ((Instant.midnight a).cmp b)
  | timestamp a, date b => some (a.cmp (.midnight b))
  | null, null => some .eq
  | _, _ => none

/-- Whether two values compare as equal. -/
def equals (a b : Value) : Bool :=
  a.compare? b == some .eq

/-! ## Text forms -/

/-- Doubles as values are written out in full, and only what is no integer shows a fraction. -/
def floatLayout : Double.Layout where
  tie := .away
  positional := fun _ => true
  showsFraction := false
  showsPlus := false

/-- Doubles in descriptions always show a fraction, and exponents from 16 on or below -4. -/
def describedFloatLayout : Double.Layout where
  tie := .away
  positional := fun p => -3 ≤ p && p ≤ 16
  showsFraction := true
  showsPlus := false

def print : Value → String
  | int n => toString n.toInt
  | uint n => toString n.toNat
  | float x => x.print floatLayout
  | decimal d => d.print
  | string s => s
  | boolean b => if b then "true" else "false"
  | uuid u => u.print
  | date d => d.print
  | timestamp i => i.print
  | variant name => name
  | null => "null"

/-- The digits of `n` in base `2 ^ 64`, the least first; none for zero. -/
def words : Nat → List Nat
  | 0 => []
  | n + 1 => (n + 1) % Nat.pow 2 64 :: words ((n + 1) / Nat.pow 2 64)
termination_by n => n
decreasing_by exact Nat.div_lt_self n.succ_pos (by decide)

/-- A decimal by its parts. -/
def describeDecimal (d : Decimal) : String :=
  let sign := if d.unscaled < 0 then "Minus" else if d.unscaled = 0 then "NoSign" else "Plus"
  "BigDecimal(sign=" ++ sign ++ ", scale=" ++ toString d.scale ++ ", digits=[" ++
    ", ".intercalate ((words d.unscaled.natAbs).map toString) ++ "])"

/-- The value with its kind, as a description of a predicate shows it. -/
def describe : Value → String
  | int n => "Int(" ++ toString n.toInt ++ ")"
  | uint n => "Uint(" ++ toString n.toNat ++ ")"
  | float x => "Float(" ++ x.print describedFloatLayout ++ ")"
  | decimal d => "Decimal(" ++ describeDecimal d ++ ")"
  | string s => "String(" ++ Text.quoted s ++ ")"
  | boolean b => "Boolean(" ++ (boolean b).print ++ ")"
  | uuid u => "Uuid(" ++ u.print ++ ")"
  | date d => "Date(" ++ d.print ++ ")"
  | timestamp i => "Timestamp(" ++ i.printPlain ++ "Z)"
  | variant name => "Enum(" ++ Text.quoted name ++ ")"
  | null => "Null"

end Value

end RecordFilter
