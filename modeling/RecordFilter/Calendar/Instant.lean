import RecordFilter.Calendar.Date

/-!
# Instants

A second of a day in coordinated universal time, and the nanoseconds since it began. A leap second
is the second before it gone on for longer than a second.
-/

namespace RecordFilter

/-- The time of day; from `10 ^ 9` on, the nanoseconds lie in a leap second. -/
structure TimeOfDay where
  second : Fin 86400
  nanos : Fin (2 * Nat.pow 10 9)
deriving DecidableEq

namespace TimeOfDay

def midnight : TimeOfDay := ⟨0, 0⟩

/-- The time of day on a clock; the sixtieth second is a leap second. -/
def ofClock? (hour minute second nanos : Nat) : Option TimeOfDay :=
  let leap := second = 60
  let s := (hour * 60 + minute) * 60 + if leap then 59 else second
  let n := nanos + if leap then Nat.pow 10 9 else 0
  if h : hour < 24 ∧ minute < 60 ∧ second ≤ 60 ∧ s < 86400 ∧ n < 2 * Nat.pow 10 9 then
    some ⟨⟨s, h.2.2.2.1⟩, ⟨n, h.2.2.2.2⟩⟩
  else none

def cmp (a b : TimeOfDay) : Ordering :=
  (compare a.second.val b.second.val).then (compare a.nanos.val b.nanos.val)

/-- The fraction of a second in three, six or nine digits, the fewest that lose nothing; none if
it is zero. -/
def printFraction (nanos : Nat) : List Char :=
  if nanos = 0 then []
  else if nanos % 1000000 = 0 then '.' :: Digits.padded 3 (nanos / 1000000)
  else if nanos % 1000 = 0 then '.' :: Digits.padded 6 (nanos / 1000)
  else '.' :: Digits.padded 9 nanos

def print (t : TimeOfDay) : List Char :=
  let leap := t.nanos.val / Nat.pow 10 9
  Digits.padded 2 (t.second.val / 3600) ++ ':' :: Digits.padded 2 (t.second.val / 60 % 60) ++
    ':' :: Digits.padded 2 (t.second.val % 60 + leap) ++ printFraction (t.nanos.val % Nat.pow 10 9)

end TimeOfDay

structure Instant where
  date : Date
  time : TimeOfDay
deriving DecidableEq

namespace Instant

def midnight (d : Date) : Instant := ⟨d, .midnight⟩

def cmp (a b : Instant) : Ordering :=
  (a.date.cmp b.date).then (a.time.cmp b.time)

/-- The instant that a clock ahead of universal time by `offset` seconds shows as `shown`. The
offset is less than a day. -/
def ofLocal? (shown : Instant) (offset : Int) : Option Instant :=
  let s : Int := shown.time.second.val - offset
  let day := if s < 0 then shown.date.previous?
    else if 86400 ≤ s then shown.date.next?
    else some shown.date
  day.map fun d => ⟨d, ⟨Fin.ofNat 86400 (s % 86400).toNat, shown.time.nanos⟩⟩

/-! ## Reading -/

open Date (Reader readDigits readChar)

/-- Reads a point and one or more digits, of which nine count. -/
def readFraction : Reader Nat
  | '.' :: r => do
    let ds := r.takeWhile Char.isDigit
    let n ← Digits.read? (ds.take 9)
    return (n * Nat.pow 10 (9 - ds.length), r.drop ds.length)
  | s => some (0, s)

/-- Reads hours, minutes and seconds joined by colons, and an optional fraction; `field` reads one
number. -/
def readClock (field : Reader Nat) : Reader TimeOfDay := fun s => do
  let (hour, s) ← field s
  let (_, s) ← readChar ':' s
  let (minute, s) ← field s
  let (_, s) ← readChar ':' s
  let (second, s) ← field s
  let (nanos, s) ← readFraction s
  return (← TimeOfDay.ofClock? hour minute second nanos, s)

/-- Reads an offset in seconds: `Z`, or a sign with hours and minutes. -/
def readOffset : Reader Int
  | [] => none
  | c :: r =>
    if c = 'Z' || c = 'z' then some (0, r)
    else do
      let sign ← if c = '+' then some 1 else if c = '-' || c = '\u2212' then some (-1) else none
      let (hours, r) ← readDigits 2 2 r
      let (_, r) ← readChar ':' r
      let (minutes, r) ← readDigits 2 2 r
      if hours < 24 ∧ minutes < 60 then
        return (sign * ((hours * 60 + minutes) * 60 : Nat), r)
      else none

/-- Reads a date and a time with an offset, every number at its full width. -/
def readWithOffset? (s : List Char) : Option Instant := do
  let (year, s) ← readDigits 4 4 s
  let (_, s) ← readChar '-' s
  let (month, s) ← readDigits 2 2 s
  let (_, s) ← readChar '-' s
  let (day, s) ← readDigits 2 2 s
  let date ← Date.of? year month day
  let s ← match s with
    | c :: r => if c = 'T' || c = 't' || c = ' ' then some r else none
    | [] => none
  let (time, s) ← readClock (readDigits 2 2) s
  let (offset, s) ← readOffset s
  if s.isEmpty then ofLocal? ⟨date, time⟩ offset else none

/-- Reads a date and a time with `T` or blanks between them, as universal time. -/
def readPlain? (s : List Char) : Option Instant := do
  let (date, s) ← Date.readFields s
  let s := match s with
    | 'T' :: r => r
    | r => r
  let (time, s) ← readClock (fun s => readDigits 1 2 (Text.trimStart s)) s
  if s.isEmpty then some ⟨date, time⟩ else none

/-! ## Printing -/

/-- Date and time joined by `T`. -/
def printPlain (i : Instant) : String :=
  i.date.print ++ "T" ++ String.ofList i.time.print

/-- Date and time with the offset of universal time. -/
def print (i : Instant) : String :=
  i.printPlain ++ "+00:00"

end Instant

end RecordFilter
