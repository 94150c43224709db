import RecordFilter.Number.Digits

/-!
# Integers of 64 bits

Reading integers with a sign and a range. The text is read from left to right, and the first
character that is no digit or leads out of the range decides what is wrong.
-/

namespace RecordFilter

inductive IntegerFault where
  | empty
  | invalidDigit
  | tooLarge
  | tooSmall
deriving DecidableEq, Repr

def IntegerFault.message : IntegerFault → String
  | empty => "cannot parse integer from empty string"
  | invalidDigit => "invalid digit found in string"
  | tooLarge => "number too large to fit in target type"
  | tooSmall => "number too small to fit in target type"

namespace Integer

/-- Reads on from the number `n`; the result may not exceed `bound`. -/
def readOn (bound : Nat) (excess : IntegerFault) (n : Nat) : List Char → Except IntegerFault Nat
  | [] => .ok n
  | c :: r =>
    match Digits.value? c with
    | none => .error .invalidDigit
    | some d =>
      if bound < n * 10 + d then .error excess else readOn bound excess (n * 10 + d) r

/-- Reads one or more digits. -/
def readMagnitude (bound : Nat) (excess : IntegerFault) : List Char → Except IntegerFault Nat
  | [] => .error .invalidDigit
  | s => readOn bound excess 0 s

/-- Reads an integer from `-2^bits` up to, and without, `2^bits`. -/
def readSigned (bits : Nat) : List Char → Except IntegerFault Int
  | [] => .error .empty
  | '-' :: r => do return -(← readMagnitude (Nat.pow 2 bits) .tooSmall r : Nat)
  | '+' :: r => do return (← readMagnitude (Nat.pow 2 bits - 1) .tooLarge r : Nat)
  | s => do return (← readMagnitude (Nat.pow 2 bits - 1) .tooLarge s : Nat)

/-- Reads a natural number below `2^bits`. -/
def readUnsigned (bits : Nat) : List Char → Except IntegerFault Nat
  | [] => .error .empty
  | '+' :: r => readMagnitude (Nat.pow 2 bits - 1) .tooLarge r
  | s => readMagnitude (Nat.pow 2 bits - 1) .tooLarge s

def readInt64 (s : List Char) : Except IntegerFault Int64 := do
  return .ofInt (← readSigned 63 s)

def readUInt64 (s : List Char) : Except IntegerFault UInt64 := do
  return .ofNat (← readUnsigned 64 s)

end Integer

end RecordFilter
