import RecordFilter.Number.Digits

/-!
# UUIDs

A UUID is a number of 128 bits, written as 32 hexadecimal digits in five groups.
-/

namespace RecordFilter

structure Uuid where
  number : Fin (Nat.pow 2 128)
deriving DecidableEq, Repr

namespace Uuid

def nil : Uuid := ⟨0, by decide⟩

def ofNat (n : Nat) : Uuid :=
  ⟨n % Nat.pow 2 128, Nat.mod_lt n (by decide)⟩

/-- The value of a hexadecimal digit of either case. -/
def digit? (c : Char) : Option Nat :=
  if c.isDigit then some (c.toNat - '0'.toNat)
  else if 'a' ≤ c ∧ c ≤ 'f' then some (c.toNat - 'a'.toNat + 10)
  else if 'A' ≤ c ∧ c ≤ 'F' then some (c.toNat - 'A'.toNat + 10)
  else none

def readHex? (n : Nat) : List Char → Option Nat
  | [] => some n
  | c :: r => do readHex? (n * 16 + (← digit? c)) r

/-- The lengths of the groups of digits. -/
def groups : List Nat := [8, 4, 4, 4, 12]

/-- Takes out the hyphens between groups of the given lengths; nothing else may stand there. -/
def joinGroups? : List Nat → List Char → Option (List Char)
  | [], s => if s.isEmpty then some [] else none
  | [n], s => if s.length = n then some s else none
  | n :: ns, s =>
    match s.drop n with
    | '-' :: r => (joinGroups? ns r).map (s.take n ++ ·)
    | _ => none

def readHyphenated? (s : List Char) : Option Uuid := do
  return ofNat (← readHex? 0 (← joinGroups? groups s))

/-- What may stand before the groups, in capital or small letters. -/
def urn : List Char :=
  "urn:uuid:".toList

/-- Reads 32 digits, or the five groups alone, in braces, or behind `urn:uuid:`. -/
def read? (s : List Char) : Option Uuid :=
  if s.length = 32 then (readHex? 0 s).map ofNat
  else if urn.isPrefixOf (s.map Char.toLower) then readHyphenated? (s.drop urn.length)
  else if s.head? = some '\x7b' && s.getLast? = some '\x7d' then
    readHyphenated? (s.drop 1).dropLast
  else readHyphenated? s

def hexDigits (u : Uuid) : List Char :=
  let ds := Nat.toDigits 16 u.number.val
  List.replicate (32 - ds.length) '0' ++ ds

def splitGroups : List Nat → List Char → List (List Char)
  | [], _ => []
  | n :: ns, s => s.take n :: splitGroups ns (s.drop n)

def print (u : Uuid) : String :=
  "-".intercalate ((splitGroups groups u.hexDigits).map String.ofList)

end Uuid

end RecordFilter
