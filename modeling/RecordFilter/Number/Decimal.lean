import RecordFilter.Number.Digits
import RecordFilter.Number.Double.Reader

/-!
# Decimal numbers

A decimal is an integer with a scale: `unscaled / 10 ^ scale`. The scale is kept as it was
written, so `1.0` and `1.00` differ as decimals and compare as equal.
-/

namespace RecordFilter

structure Decimal where
  unscaled : Int
  scale : Int
deriving DecidableEq, Repr

namespace Decimal

def ofInt (n : Int) : Decimal := ⟨n, 0⟩

/-! ## Order -/

/-- The exponent `e` with `10 ^ (e - 1) ≤ |d| < 10 ^ e`, for a decimal that is not zero. -/
def top (d : Decimal) : Int :=
  Digits.count d.unscaled.natAbs - d.scale

/-- The integer that the decimal is of the unit `10 ^ (-scale)`, where `scale` is not below its
own. -/
def inUnit (d : Decimal) (scale : Int) : Int :=
  d.unscaled * Int.pow 10 (scale - d.scale).toNat

/-- Compares the sign first, then the place of the leading digit, and last the digits; so numbers
of very different scales are not written out. -/
def cmp (a b : Decimal) : Ordering :=
  (compare a.unscaled.sign b.unscaled.sign).then <|
    if a.unscaled = 0 then .eq
    else
      let tops := compare a.top b.top
      (if a.unscaled < 0 then tops.swap else tops).then <|
        let unit := max a.scale b.scale
        compare (a.inUnit unit) (b.inUnit unit)

/-! ## Doubles -/

/-- The exact value of a double; infinities and what is no number have none. -/
def ofDouble? (x : Double) : Option Decimal :=
  if x.isFinite then
    let m : Int := if x.negative then -(x.significand : Int) else x.significand
    let e := x.exponent
    if x.significand = 0 then some ⟨0, 0⟩
    else some ⟨m * Int.pow 2 e.toNat * Int.pow 5 (-e).toNat, (-e).toNat⟩
  else none

/-- Drops digits at the end, nineteen at a time, as long as seventeen remain; so many tell doubles
apart. -/
def shortened (d : Decimal) : Decimal :=
  let dropped := 19 * ((Digits.count d.unscaled.natAbs - 17) / 19)
  ⟨d.unscaled.tdiv (Int.pow 10 dropped), d.scale - dropped⟩

/-- A double near the decimal: the nearest one to an integer as it stands, and to the shortened
decimal if that has a fraction. Else the digits are multiplied by the power of ten, which rounds
more than once. A scale whose exponent has no 32 bits, or is past all doubles, gives infinity. -/
def toDouble (d : Decimal) : Double :=
  if d.scale = 0 || d.unscaled = 0 then .ofInt d.unscaled
  else
    let s := d.shortened
    if s.scale < -308 || Int.pow 2 31 ≤ s.scale then .infinity (s.unscaled < 0)
    else if 0 < s.scale then .ofWritten (s.unscaled < 0) ⟨s.unscaled.natAbs, -s.scale⟩
    else (Double.ofInt s.unscaled).mul ((Double.ofInt 10).pow (-s.scale).toNat)

/-! ## Reading -/

/-- Reads digits, among which underscores may stand, but not first. -/
def readDigits? : List Char → Option Nat
  | [] => none
  | '_' :: _ => none
  | s => Digits.readOn? 0 (s.filter (· ≠ '_'))

/-- Reads digits with an optional sign. -/
def readInteger? : List Char → Option Int
  | '-' :: r => (readDigits? r).map fun n => -(n : Int)
  | '+' :: r => (readDigits? r).map Int.ofNat
  | s => (readDigits? s).map Int.ofNat

def fitsScale (n : Int) : Bool :=
  -Int.pow 2 63 ≤ n && n < Int.pow 2 63

/-- The exponent behind the letter: digits with an optional sign. -/
def readExponent? (s : List Char) : Option Int :=
  let (negative, digits) := Double.splitSign s
  (Digits.read? digits).map fun n => if negative then -(n : Int) else n

/-- Reads digits with an optional point and an optional exponent. The integer is what is left when
the point is taken out, and the scale counts the places behind it less the exponent. -/
def read? (s : List Char) : Option Decimal := do
  let base := s.takeWhile fun c => c ≠ 'e' && c ≠ 'E'
  let exponent ←
    match s.drop base.length with
    | [] => some 0
    | _ :: r => readExponent? r
  let lead := base.takeWhile (· ≠ '.')
  let trail := base.drop (lead.length + 1)
  let unscaled ← readInteger? (lead ++ trail)
  let scale : Int := (trail.filter (· ≠ '_')).length - exponent
  if fitsScale scale then some ⟨unscaled, scale⟩ else none

/-! ## Printing -/

/-- Inserts a point so that `places` digits stand behind it, with zeros before the digits as
needed. -/
def withPoint (ds : List Char) (places : Nat) : List Char :=
  if places = 0 then ds
  else
    let ds := List.replicate (places + 1 - ds.length) '0' ++ ds
    ds.take (ds.length - places) ++ '.' :: ds.drop (ds.length - places)

/-- A decimal is written out unless more than five zeros would follow the point, or more than
fifteen would follow its digits; zero is a single digit. -/
def print (d : Decimal) : String :=
  if d.unscaled = 0 then "0"
  else
    let sign := if d.unscaled < 0 then "-" else ""
    let ds := Digits.ofNat d.unscaled.natAbs
    if (ds.length : Int) + 5 < d.scale then
      let mantissa := if ds.length = 1 then ds else withPoint ds (ds.length - 1)
      sign ++ String.ofList mantissa ++ "E" ++ toString ((ds.length : Int) - 1 - d.scale)
    else if d.scale < -15 then
      sign ++ String.ofList ds ++ "e+" ++ toString (-d.scale)
    else if d.scale < 0 then
      sign ++ String.ofList (ds ++ List.replicate (-d.scale).toNat '0')
    else sign ++ String.ofList (withPoint ds d.scale.toNat)

end Decimal

end RecordFilter
