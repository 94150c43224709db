/-!
# Double-precision numbers

A double is a sign and a magnitude. Magnitudes are numbered in ascending order: zero, the
subnormal and the normal numbers, infinity at `infinite`, and above it what is no number. So the
order of doubles is the order of integers, and a rounded significand that overflows into the next
power of two needs no care.
-/

namespace RecordFilter

structure Double where
  negative : Bool
  magnitude : Fin (Nat.pow 2 63)
deriving DecidableEq, Repr

/-- Rounds `num / den` to the nearest integer, a half to the even one. -/
def roundHalfEven (num den : Nat) : Nat :=
  let q := num / den
  let r := num % den
  if 2 * r < den then q
  else if den < 2 * r then q + 1
  else if q % 2 = 0 then q else q + 1

/-- The ratio `(num / den) * 2 ^ e` as numerator and denominator. -/
def shiftRatio (num den : Nat) (e : Int) : Nat × Nat :=
  (num * Nat.pow 2 e.toNat, den * Nat.pow 2 (-e).toNat)

/-- The exponent `e` with `2 ^ e ≤ num / den < 2 ^ (e + 1)`, for a positive ratio. -/
def floorLog2 (num den : Nat) : Int :=
  let e : Int := (num.log2 : Int) - (den.log2 : Int)
  let (n, d) := shiftRatio num den (-e)
  if d ≤ n then e else e - 1

/-- The significand `n` and exponent `q` of the binary number with `bits` bits and no exponent
below `least` that is nearest to `num / den`. -/
def roundBinary (bits : Nat) (least : Int) (num den : Nat) : Nat × Int :=
  let q := max (floorLog2 num den - (bits - 1)) least
  let (n, d) := shiftRatio num den (-q)
  (roundHalfEven n d, q)

namespace Double

/-- The magnitude of infinity. -/
def infinite : Nat := 2047 * Nat.pow 2 52

def isNaN (x : Double) : Bool :=
  infinite < x.magnitude.val

def isInfinite (x : Double) : Bool :=
  x.magnitude.val == infinite

def isFinite (x : Double) : Bool :=
  x.magnitude.val < infinite

def isZero (x : Double) : Bool :=
  x.magnitude.val == 0

/-- The magnitude `n`, or infinity if it is not below it. -/
def ofMagnitude (negative : Bool) (n : Nat) : Double :=
  ⟨negative, ⟨min n infinite, Nat.lt_of_le_of_lt (Nat.min_le_right _ _) (by decide)⟩⟩

def zero (negative : Bool) : Double :=
  ofMagnitude negative 0

def infinity (negative : Bool) : Double :=
  ofMagnitude negative infinite

def nan : Double :=
  ⟨false, ⟨infinite + Nat.pow 2 51, by decide⟩⟩

def neg (x : Double) : Double :=
  { x with negative := !x.negative }

/-! ## Exact values -/

def biased (x : Double) : Nat :=
  x.magnitude.val / Nat.pow 2 52

def fraction (x : Double) : Nat :=
  x.magnitude.val % Nat.pow 2 52

/-- A finite double is `significand * 2 ^ exponent`, up to its sign. -/
def significand (x : Double) : Nat :=
  if x.biased = 0 then x.fraction else x.fraction + Nat.pow 2 52

def exponent (x : Double) : Int :=
  (max x.biased 1 : Nat) - 1075

/-! ## Rounding to doubles -/

/-- The magnitude of the number `n * 2 ^ q`, where `q` is at least `-1074` and `n` has 53 bits
unless `q` is `-1074`. -/
def magnitudeOf (n : Nat) (q : Int) : Nat :=
  (q + 1074).toNat * Nat.pow 2 52 + n

/-- The double nearest to `num / den`. -/
def ofRatio (negative : Bool) (num den : Nat) : Double :=
  if num = 0 then zero negative
  else
    let (n, q) := roundBinary 53 (-1074) num den
    ofMagnitude negative (magnitudeOf n q)

def ofInt (n : Int) : Double :=
  ofRatio (n < 0) n.natAbs 1

/-- The double nearest to the single-precision number that is nearest to `num / den`. -/
def ofSingleRatio (negative : Bool) (num den : Nat) : Double :=
  if num = 0 then zero negative
  else
    let (n, q) := roundBinary 24 (-149) num den
    let (m, d) := shiftRatio n 1 q
    if Nat.pow 2 128 * d ≤ m then infinity negative else ofRatio negative m d

/-- The product of two finite doubles. -/
def mul (x y : Double) : Double :=
  let (n, d) := shiftRatio (x.significand * y.significand) 1 (x.exponent + y.exponent)
  ofRatio (x.negative != y.negative) n d

/-- Multiplies by a power, with repeated squaring from the lowest binary digit of `n` up; every
product is rounded. -/
def mulPow (acc x : Double) (n : Nat) : Double :=
  if n = 0 then acc
  else mulPow (if n % 2 = 1 then acc.mul x else acc) (x.mul x) (n / 2)
termination_by n
decreasing_by omega

def pow (x : Double) (n : Nat) : Double :=
  mulPow (ofInt 1) x n

/-- The quotient of two finite doubles, of which the second is not zero. -/
def div (x y : Double) : Double :=
  let (n, d) := shiftRatio x.significand y.significand (x.exponent - y.exponent)
  ofRatio (x.negative != y.negative) n d

/-! ## Order -/

/-- Doubles that are numbers are ordered as these integers; both zeros have rank zero. -/
def rank (x : Double) : Int :=
  if x.negative then -(x.magnitude.val : Int) else x.magnitude.val

/-- What is no number compares with nothing. -/
def compare? (x y : Double) : Option Ordering :=
  if x.isNaN || y.isNaN then none else some (compare x.rank y.rank)

end Double

end RecordFilter
