import RecordFilter.Number.Digits
import RecordFilter.Number.Double

/-!
# Reading doubles

A number is digits with an optional point, of which at least one digit is needed, and an optional
exponent; the words for infinity and for no number are read in any case. The result is the nearest
double; what is too large becomes infinity.
-/

namespace RecordFilter

namespace Double

/-- A number written as `digits * 10 ^ exponent`. -/
structure Written where
  digits : Nat
  exponent : Int
deriving DecidableEq, Repr

/-- The ratio that a written number denotes, or `none` where it is beyond the range that `limit`
powers of ten span; then the flag says whether it is too large. -/
def Written.ratio? (w : Written) (limit : Int) : Except Bool (Nat × Nat) :=
  if w.digits = 0 then .ok (0, 1)
  else
    let top := Digits.count w.digits + w.exponent
    if limit < top then .error true
    else if top < -limit then .error false
    else .ok (w.digits * Nat.pow 10 w.exponent.toNat, Nat.pow 10 (-w.exponent).toNat)

/-- The double nearest to a written number. -/
def ofWritten (negative : Bool) (w : Written) : Double :=
  match w.ratio? 400 with
  | .ok (n, d) => ofRatio negative n d
  | .error true => infinity negative
  | .error false => zero negative

/-- The single-precision number nearest to a written number. -/
def ofWrittenSingle (negative : Bool) (w : Written) : Double :=
  match w.ratio? 400 with
  | .ok (n, d) => ofSingleRatio negative n d
  | .error true => infinity negative
  | .error false => zero negative

/-! ## Literals -/

inductive Fault where
  | empty
  | invalid
deriving DecidableEq, Repr

def Fault.message : Fault → String
  | empty => "cannot parse float from empty string"
  | invalid => "invalid float literal"

/-- What a literal says besides its sign. -/
inductive Body where
  | nan
  | infinity
  | number (w : Written)

/-- Reads a sign, which may be left out. -/
def splitSign : List Char → Bool × List Char
  | '-' :: r => (true, r)
  | '+' :: r => (false, r)
  | s => (false, s)

/-- Reads the exponent at the end of a number; it is zero if nothing is left. -/
def readExponent? : List Char → Option Int
  | [] => some 0
  | c :: r =>
    if c == 'e' || c == 'E' then
      let (negative, digits) := splitSign r
      (Digits.read? digits).map fun n => if negative then -(n : Int) else n
    else none

def readNumber? (s : List Char) : Option Written :=
  let (whole, rest) := Digits.split s
  let (part, rest) :=
    match rest with
    | '.' :: r => Digits.split r
    | r => ([], r)
  match Digits.read? (whole ++ part), readExponent? rest with
  | some n, some e => some ⟨n, e - part.length⟩
  | _, _ => none

def readBody? (s : List Char) : Option Body :=
  let word := s.map Char.toLower
  if word = "nan".toList then some .nan
  else if word = "inf".toList || word = "infinity".toList then some .infinity
  else (readNumber? s).map .number

/-- Reads a literal; `round` makes a double of a number with its sign. -/
def readWith (round : Bool → Written → Double) (s : List Char) : Except Fault Double :=
  if s.isEmpty then .error .empty
  else
    let (negative, rest) := splitSign s
    match readBody? rest with
    | none => .error .invalid
    | some .nan => .ok { nan with negative }
    | some .infinity => .ok (infinity negative)
    | some (.number w) => .ok (round negative w)

def read : List Char → Except Fault Double :=
  readWith ofWritten

/-- Reads a literal of single precision. -/
def readSingle : List Char → Except Fault Double :=
  readWith ofWrittenSingle

end Double

end RecordFilter
