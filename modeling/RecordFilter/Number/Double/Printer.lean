import RecordFilter.Number.Digits
import RecordFilter.Number.Double

/-!
# Printing doubles

A finite double is printed with the fewest digits that read back as it, and of those the nearest
to it. A layout says how a tie between two such numbers is settled, which exponents are written out
in zeros, whether a fraction is always shown, and whether an exponent shows its plus.
-/

namespace RecordFilter

namespace Double

/-! ## The shortest digits -/

/-- How two equally near decimal numbers are told apart. -/
inductive Tie where
  | toEven
  | away
deriving DecidableEq, Repr

/-- The number `digits * 10 ^ exponent`. -/
structure Scientific where
  digits : Nat
  exponent : Int
deriving DecidableEq, Repr

/-- The numbers that read back as a double, in the unit `2 ^ exponent`: those between `low` and
`high`, which themselves count if `closed`. -/
structure Interval where
  low : Nat
  value : Nat
  high : Nat
  closed : Bool
  exponent : Int
deriving DecidableEq, Repr

/-- Below a power of two the doubles are twice as dense. -/
def interval (x : Double) : Interval :=
  let m := x.significand
  let lower := if x.fraction = 0 ∧ 1 < x.biased then 1 else 2
  ⟨4 * m - lower, 4 * m, 4 * m + 2, m % 2 == 0, x.exponent - 2⟩

/-- The exponent `e` with `10 ^ (e - 1) ≤ num / den < 10 ^ e`, for a positive ratio. -/
def decimalExponent (num den : Nat) : Int :=
  if den ≤ num then Digits.count (num / den) else 1 - Digits.count ((den - 1) / num)

/-- The multiple of `10 ^ k` in the interval that is nearest to its value, if there is one. -/
def Interval.nearest? (i : Interval) (tie : Tie) (k : Int) : Option Nat :=
  let (up, down) := shiftRatio (Nat.pow 10 (-k).toNat) (Nat.pow 10 k.toNat) i.exponent
  let below := i.value * up / down
  let above := below + 1
  let fits (n : Nat) : Bool :=
    if i.closed then i.low * up ≤ n * down && n * down ≤ i.high * up
    else i.low * up < n * down && n * down < i.high * up
  match fits below, fits above with
  | false, false => none
  | true, false => some below
  | false, true => some above
  | true, true =>
    let toBelow := i.value * up - below * down
    let toAbove := above * down - i.value * up
    if toBelow < toAbove then some below
    else if toAbove < toBelow then some above
    else match tie with
      | .away => some above
      | .toEven => some (if below % 2 = 0 then below else above)

/-- Moves the zeros at the end of the digits into the exponent. -/
def Scientific.trimmed (s : Scientific) : Scientific :=
  let zeros := ((Digits.ofNat s.digits).reverse.takeWhile (· == '0')).length
  ⟨s.digits / Nat.pow 10 zeros, s.exponent + zeros⟩

/-- The shortest digits of a finite double that is not zero. Seventeen always suffice. -/
def shortest (tie : Tie) (x : Double) : Scientific :=
  let i := x.interval
  let (n, d) := shiftRatio i.value 1 i.exponent
  let e := decimalExponent n d
  let at? (j : Nat) : Option Scientific :=
    let k := e - (j + 1)
    (i.nearest? tie k).map (⟨·, k⟩)
  (((List.range 17).findSome? at?).getD ⟨0, 0⟩).trimmed

/-! ## Layouts -/

/-- How the digits of a double are laid out. -/
structure Layout where
  tie : Tie
  /-- Which exponents are written out in zeros; the exponent `p` is that of `0.ddd * 10 ^ p`. -/
  positional : Int → Bool
  /-- Whether a number without a fraction is given one. -/
  showsFraction : Bool
  /-- Whether an exponent that is not negative has a plus sign. -/
  showsPlus : Bool

/-- Digits and zeros, with a point where the exponent puts it. -/
def Scientific.positional (s : Scientific) (showsFraction : Bool) : String :=
  let ds := Digits.ofNat s.digits
  let p : Int := ds.length + s.exponent
  let chars :=
    if 0 ≤ s.exponent then
      ds ++ List.replicate s.exponent.toNat '0' ++ (if showsFraction then ['.', '0'] else [])
    else if 0 < p then ds.take p.toNat ++ '.' :: ds.drop p.toNat
    else '0' :: '.' :: List.replicate (-p).toNat '0' ++ ds
  String.ofList chars

/-- One digit, a point if more follow, and the exponent. -/
def Scientific.exponential (s : Scientific) (showsPlus : Bool) : String :=
  let ds := Digits.ofNat s.digits
  let e : Int := ds.length + s.exponent - 1
  let mantissa :=
    match ds with
    | [] => []
    | [d] => [d]
    | d :: r => d :: '.' :: r
  String.ofList mantissa ++ (if showsPlus && 0 ≤ e then "e+" else "e") ++ toString e

def print (l : Layout) (x : Double) : String :=
  if x.isNaN then "NaN"
  else
    let sign := if x.negative then "-" else ""
    if x.isInfinite then sign ++ "inf"
    else if x.isZero then sign ++ (if l.showsFraction then "0.0" else "0")
    else
      let s := x.shortest l.tie
      if l.positional (Digits.count s.digits + s.exponent) then
        sign ++ s.positional l.showsFraction
      else sign ++ s.exponential l.showsPlus

end Double

end RecordFilter
