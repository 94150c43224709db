import RecordFilter.Number.Digits
import RecordFilter.Text.Blank

/-!
# Dates

Days of the Gregorian calendar, which is continued before its introduction and has a year zero.
-/

namespace RecordFilter

namespace Calendar

def isLeapYear (year : Int) : Bool :=
  year % 4 = 0 && (year % 100 ≠ 0 || year % 400 = 0)

def daysInMonth (year : Int) (month : Nat) : Nat :=
  if month = 2 then if isLeapYear year then 29 else 28
  else if month ∈ [4, 6, 9, 11] then 30
  else 31

def firstYear : Int := -262143

def lastYear : Int := 262142

/-- Which years, months and days name a day. -/
def IsDay (year : Int) (month day : Nat) : Prop :=
  (firstYear ≤ year ∧ year ≤ lastYear) ∧ (1 ≤ month ∧ month ≤ 12) ∧
    1 ≤ day ∧ day ≤ daysInMonth year month

instance (year : Int) (month day : Nat) : Decidable (IsDay year month day) :=
  inferInstanceAs (Decidable (_ ∧ _))

end Calendar

open Calendar

structure Date where
  year : Int
  month : Nat
  day : Nat
  isDay : IsDay year month day
deriving DecidableEq

namespace Date

def of? (year : Int) (month day : Nat) : Option Date :=
  if h : IsDay year month day then some ⟨year, month, day, h⟩ else none

/-- Earlier years first, then earlier months, then earlier days. -/
def cmp (a b : Date) : Ordering :=
  (compare a.year b.year).then <| (compare a.month b.month).then <| compare a.day b.day

/-- The day after, if the calendar goes on. -/
def next? (d : Date) : Option Date :=
  (of? d.year d.month (d.day + 1)).or <|
    (of? d.year (d.month + 1) 1).or <| of? (d.year + 1) 1 1

/-- The day before, if the calendar goes back. -/
def previous? (d : Date) : Option Date :=
  (of? d.year d.month (d.day - 1)).or <|
    (of? d.year (d.month - 1) (daysInMonth d.year (d.month - 1))).or <| of? (d.year - 1) 12 31

/-! ## Reading -/

/-- A reader takes what it reads from the front of a text. -/
abbrev Reader (α : Type) := List Char → Option (α × List Char)

/-- Reads up to `most` digits, of which there must be `least`. -/
def readDigits (least most : Nat) : Reader Nat := fun s =>
  let ds := (s.takeWhile Char.isDigit).take most
  if ds.length < least then none
  else (Digits.read? ds).map fun n => (n, s.drop ds.length)

def readChar (c : Char) : Reader Unit
  | [] => none
  | d :: r => if c = d then some ((), r) else none

/-- Reads up to four digits, or a sign and any number of digits. -/
def readYear : Reader Int
  | '-' :: r => do
    let ds := r.takeWhile Char.isDigit
    return (-(← Digits.read? ds : Nat), r.drop ds.length)
  | '+' :: r => do
    let ds := r.takeWhile Char.isDigit
    return ((← Digits.read? ds : Nat), r.drop ds.length)
  | s => do
    let (n, r) ← readDigits 1 4 s
    return (n, r)

/-- Reads a year, a month and a day joined by hyphens. Blanks may stand before each number. -/
def readFields : Reader Date := fun s => do
  let (year, s) ← readYear (Text.trimStart s)
  let (_, s) ← readChar '-' s
  let (month, s) ← readDigits 1 2 (Text.trimStart s)
  let (_, s) ← readChar '-' s
  let (day, s) ← readDigits 1 2 (Text.trimStart s)
  return (← of? year month day, s)

/-- Reads a date that is all of the text. -/
def read? (s : List Char) : Option Date :=
  match readFields s with
  | some (d, []) => some d
  | _ => none

/-! ## Printing -/

/-- Years from 0 to 9999 have four digits; any other has a sign and at least four. -/
def printYear (year : Int) : List Char :=
  if 0 ≤ year ∧ year ≤ 9999 then Digits.padded 4 year.natAbs
  else (if year < 0 then '-' else '+') :: Digits.padded 4 year.natAbs

def print (d : Date) : String :=
  String.ofList (printYear d.year ++ '-' :: Digits.padded 2 d.month ++ '-' ::
    Digits.padded 2 d.day)

end Date

end RecordFilter
