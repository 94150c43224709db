import RecordFilter.Json
import RecordFilter.Json.Raw

/-!
# Reading JSON

What a written text means: escaped surrogates are paired, members are sorted by key and the later
of two with one key counts, and a number without fraction and exponent is an integer if it fits
into 64 bits. Values nest at most `maxDepth` deep.

Any other number is read in steps that each round to a double: its digits, as many as fit into a
64-bit word, and then a power of ten that they are multiplied with or divided by. A number that
gets too large is rejected.
-/

namespace RecordFilter

namespace Json

/-! ## Strings -/

def isHighSurrogate (n : Nat) : Bool :=
  0xD800 ≤ n && n ≤ 0xDBFF

def isLowSurrogate (n : Nat) : Bool :=
  0xDC00 ≤ n && n ≤ 0xDFFF

/-- The characters of a string; a surrogate without its partner has no meaning. -/
def decode? : List RawChar → Option (List Char)
  | [] => some []
  | .plain c :: r => (decode? r).map (c :: ·)
  | .unit n :: r =>
    if isLowSurrogate n then none
    else if isHighSurrogate n then
      match r with
      | .unit m :: q =>
        if isLowSurrogate m then
          (decode? q).map (Char.ofNat (0x10000 + (n - 0xD800) * 0x400 + (m - 0xDC00)) :: ·)
        else none
      | _ => none
    else (decode? r).map (Char.ofNat n :: ·)

/-! ## Numbers -/

/-- The digits of a number that fit into a word, and the power of ten that is left. -/
structure Scaled where
  significand : Nat
  exponent : Int
deriving DecidableEq, Repr

def fitsWord (n : Nat) : Bool :=
  n < Nat.pow 2 64

/-- Takes the digits of the whole part while they fit; each one left out counts as a power of
ten. -/
def Scaled.ofWhole (n : Nat) : List Char → Scaled
  | [] => ⟨n, 0⟩
  | c :: r =>
    let m := n * 10 + ((Digits.value? c).getD 0)
    if fitsWord m then ofWhole m r else ⟨n, (r.length + 1 : Nat)⟩

/-- Takes the digits of the fraction while they fit, and leaves the others out. -/
def Scaled.addFraction (s : Scaled) : List Char → Scaled
  | [] => s
  | c :: r =>
    let m := s.significand * 10 + ((Digits.value? c).getD 0)
    if fitsWord m then addFraction ⟨m, s.exponent - 1⟩ r else s

def Scaled.shift (s : Scaled) (e : Int) : Scaled :=
  { s with exponent := s.exponent + e }

/-- The largest power of ten that is a double. -/
def topExponent : Nat := 308

/-- The double nearest to a power of ten. -/
def powerOfTen (k : Nat) : Double :=
  .ofRatio false (Nat.pow 10 k) 1

/-- Divides by `10 ^ k`, by the largest power as long as `k` is above it. -/
def divideByPower (x : Double) (k : Nat) : Double :=
  if k ≤ topExponent then x.div (powerOfTen k)
  else
    let y := x.div (powerOfTen topExponent)
    if y.isZero then y else divideByPower y (k - topExponent)
termination_by k
decreasing_by
  simp only [topExponent] at *
  omega

/-- The double that the digits and the power of ten give, unless it is too large. -/
def Scaled.toDouble? (s : Scaled) : Option Double :=
  let x := Double.ofInt s.significand
  if x.isZero then some x
  else if s.exponent < 0 then some (divideByPower x s.exponent.natAbs)
  else if (topExponent : Int) < s.exponent then none
  else
    let y := x.mul (powerOfTen s.exponent.toNat)
    if y.isFinite then some y else none

/-- The integer that fits, if there is one. Minus zero is none. -/
def integer? (negative : Bool) (n : Nat) : Option Number :=
  if negative then
    if 0 < n ∧ n ≤ Nat.pow 2 63 then some (.negative (.ofInt (-(n : Int)))) else none
  else if fitsWord n then some (.natural (.ofNat n)) else none

def exponentOf (r : RawNumber) : Int :=
  match r.exponent with
  | none => 0
  | some (negative, ds) =>
    let n : Int := (Digits.read? ds).getD 0
    if negative then -n else n

def isInteger (r : RawNumber) : Bool :=
  r.fraction.isEmpty && r.exponent.isNone

def Number.ofDouble? (r : RawNumber) : Option Number :=
  let s := ((Scaled.ofWhole 0 r.whole).addFraction r.fraction).shift (exponentOf r)
  s.toDouble?.map fun x => .double (if r.negative then x.neg else x)

def Number.ofRaw? (r : RawNumber) : Option Number :=
  if isInteger r then
    (integer? r.negative ((Digits.read? r.whole).getD 0)).or (ofDouble? r)
  else ofDouble? r

/-! ## Documents -/

/-- How deep arrays and objects nest. -/
def maxDepth : Nat := 127

mutual

/-- The value of a written text in which arrays and objects nest up to `depth`. -/
def ofRaw? (depth : Nat) : Raw → Option Json
  | .null => some null
  | .bool b => some (bool b)
  | .number n => (Number.ofRaw? n).map number
  | .string s => (decode? s).map fun cs => string (String.ofList cs)
  | .array items => if depth = 0 then none else (ofRawItems? (depth - 1) items).map array
  | .object members =>
    if depth = 0 then none
    else (ofRawMembers? (depth - 1) members).map fun ms => object (Object.ofMembers ms)

def ofRawItems? (depth : Nat) : List Raw → Option (List Json)
  | [] => some []
  | r :: rs => do return (← ofRaw? depth r) :: (← ofRawItems? depth rs)

def ofRawMembers? (depth : Nat) : List (List RawChar × Raw) → Option (List (String × Json))
  | [] => some []
  | (k, v) :: ms => do
    return (String.ofList (← decode? k), ← ofRaw? depth v) :: (← ofRawMembers? depth ms)

end

/-- Reads a document. -/
def read? (text : String) : Option Json := do
  ofRaw? maxDepth (← Raw.ofText? text)

end Json

end RecordFilter
