/-!
# Decimal digits

Numbers as sequences of decimal digits, read and counted.
-/

namespace RecordFilter.Digits

/-- The value of a digit. -/
def value? (c : Char) : Option Nat :=
  if c.isDigit then some (c.toNat - '0'.toNat) else none

/-- Reads on from the number `n`; every character has to be a digit. -/
def readOn? (n : Nat) : List Char → Option Nat
  | [] => some n
  | c :: r =>
    match value? c with
    | none => none
    | some d => readOn? (n * 10 + d) r

/-- The number that one or more digits denote. -/
def read? : List Char → Option Nat
  | [] => none
  | s => readOn? 0 s

/-- Splits a text where its digits at the beginning end. -/
def split (s : List Char) : List Char × List Char :=
  (s.takeWhile Char.isDigit, s.dropWhile Char.isDigit)

def ofNat (n : Nat) : List Char :=
  Nat.toDigits 10 n

/-- The number of digits of `n`; zero has one. -/
def count (n : Nat) : Nat :=
  (ofNat n).length

/-- The digits of `n`, with zeros before them up to `width`. -/
def padded (width n : Nat) : List Char :=
  List.replicate (width - count n) '0' ++ ofNat n

end RecordFilter.Digits
