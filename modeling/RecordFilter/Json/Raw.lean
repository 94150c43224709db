import RecordFilter.Number.Digits

/-!
# The written form of JSON

A JSON text as it is written: numbers as their digits, strings as characters and escaped code
units, and objects with every member. Reading takes any text of the grammar, whatever its numbers,
surrogates and depth, and each reader leaves a shorter text.
-/

namespace RecordFilter

namespace Json

/-- A number as it is written. -/
structure RawNumber where
  negative : Bool
  whole : List Char
  fraction : List Char
  /-- The sign and the digits of the exponent. -/
  exponent : Option (Bool × List Char)
deriving DecidableEq, Repr

/-- A character, or a code unit of UTF-16 that was written by its number. -/
inductive RawChar where
  | plain (c : Char)
  | unit (n : Nat)
deriving DecidableEq, Repr

inductive Raw where
  | null
  | bool (b : Bool)
  | number (n : RawNumber)
  | string (s : List RawChar)
  | array (items : List Raw)
  | object (members : List (List RawChar × Raw))

namespace Raw

/-- What was read from `s`, and the shorter text after it. -/
abbrev Reading (α : Type) (s : List Char) :=
  Option (α × { r : List Char // r.length < s.length })

def isBlank (c : Char) : Bool :=
  c == ' ' || c == '\n' || c == '\t' || c == '\r'

def skipBlanks (s : List Char) : List Char :=
  s.dropWhile isBlank

/-- Reads the next character that is not blank. -/
def readMark (s : List Char) : Reading Char s :=
  match h : skipBlanks s with
  | [] => none
  | c :: r => some (c, ⟨r, by
    have : (skipBlanks s).length ≤ s.length := (List.dropWhile_suffix isBlank).length_le
    rw [h] at this
    exact this⟩)

/-! ## Strings -/

def hexDigit? (c : Char) : Option Nat :=
  if c.isDigit then some (c.toNat - '0'.toNat)
  else if 'a' ≤ c ∧ c ≤ 'f' then some (c.toNat - 'a'.toNat + 10)
  else if 'A' ≤ c ∧ c ≤ 'F' then some (c.toNat - 'A'.toNat + 10)
  else none

/-- The code unit of four hexadecimal digits. -/
def codeUnit? (a b c d : Char) : Option Nat := do
  return (((← hexDigit? a) * 16 + (← hexDigit? b)) * 16 + (← hexDigit? c)) * 16 + (← hexDigit? d)

def simpleEscape? : Char → Option Char
  | '\"' => some '\"'
  | '\\' => some '\\'
  | '/' => some '/'
  | 'b' => some '\x08'
  | 'f' => some '\x0c'
  | 'n' => some '\n'
  | 'r' => some '\r'
  | 't' => some '\t'
  | _ => none

/-- Reads the character behind a backslash. -/
def readEscape : (s : List Char) → Reading RawChar s
  | 'u' :: a :: b :: c :: d :: r =>
    (codeUnit? a b c d).map fun n => (.unit n, ⟨r, by simp; omega⟩)
  | c :: r => (simpleEscape? c).map fun d => (.plain d, ⟨r, by simp⟩)
  | [] => none

/-- Reads the rest of a string whose quote was read. -/
def readString : (s : List Char) → Reading (List RawChar) s
  | [] => none
  | c :: r =>
    if c = '\"' then some ([], ⟨r, Nat.lt_succ_self _⟩)
    else if c = '\\' then do
      let (u, ⟨q, hq⟩) ← readEscape r
      let (us, ⟨t, ht⟩) ← readString q
      return (u :: us, ⟨t, Nat.lt_succ_of_lt (Nat.lt_trans ht hq)⟩)
    else if c.toNat < 32 then none
    else do
      let (us, ⟨t, ht⟩) ← readString r
      return (.plain c :: us, ⟨t, Nat.lt_succ_of_lt ht⟩)
termination_by s => s.length
decreasing_by
  · exact Nat.lt_succ_of_lt hq
  · exact Nat.lt_succ_self _

/-! ## Numbers -/

/-- Reads one or more digits. -/
def readDigits (s : List Char) : Reading (List Char) s :=
  let ds := s.takeWhile Char.isDigit
  if h : ds.length = 0 then none
  else some (ds, ⟨s.drop ds.length, by
    have : ds.length ≤ s.length := (List.takeWhile_prefix Char.isDigit).length_le
    simp
    omega⟩)

/-- Reads digits without a zero before others. -/
def readWhole : (s : List Char) → Reading (List Char) s
  | '0' :: r => some (['0'], ⟨r, by simp⟩)
  | s => readDigits s

/-- Reads the point and its digits, if there are any. -/
def readFraction : (s : List Char) → Option (List Char × { r : List Char // r.length ≤ s.length })
  | '.' :: r => do
    let (ds, ⟨q, hq⟩) ← readDigits r
    return (ds, ⟨q, by simp; omega⟩)
  | s => some ([], ⟨s, Nat.le_refl _⟩)

/-- Reads the exponent, if there is one. -/
def readExponent :
    (s : List Char) → Option (Option (Bool × List Char) × { r : List Char // r.length ≤ s.length })
  | [] => some (none, ⟨[], Nat.le_refl _⟩)
  | c :: r =>
    if c = 'e' ∨ c = 'E' then
      match r with
      | '-' :: q => do
        let (ds, ⟨t, ht⟩) ← readDigits q
        return (some (true, ds), ⟨t, by simp; omega⟩)
      | '+' :: q => do
        let (ds, ⟨t, ht⟩) ← readDigits q
        return (some (false, ds), ⟨t, by simp; omega⟩)
      | q => do
        let (ds, ⟨t, ht⟩) ← readDigits q
        return (some (false, ds), ⟨t, by simp; omega⟩)
    else some (none, ⟨c :: r, Nat.le_refl _⟩)

/-- Reads a number without its sign. -/
def readMagnitude (negative : Bool) (s : List Char) : Reading RawNumber s := do
  let (whole, ⟨q, hq⟩) ← readWhole s
  let (fraction, ⟨t, ht⟩) ← readFraction q
  let (exponent, ⟨u, hu⟩) ← readExponent t
  return (⟨negative, whole, fraction, exponent⟩, ⟨u, by omega⟩)

/-- Reads a number, blanks before it skipped. -/
def readNumber (s : List Char) : Reading RawNumber s := do
  let (c, ⟨r, hr⟩) ← readMark s
  if c = '-' then
    let (n, ⟨q, hq⟩) ← readMagnitude true r
    return (n, ⟨q, by omega⟩)
  else
    let (n, ⟨q, hq⟩) ← readMagnitude false (c :: r)
    return (n, ⟨q, by simp at hq; omega⟩)

/-! ## Documents -/

/-- Drops the rest of a word that begins a value. -/
def dropWord (word : List Char) (s : List Char) : Option { r : List Char // r.length ≤ s.length } :=
  if word.isPrefixOf s then some ⟨s.drop word.length, by simp⟩ else none

mutual

/-- Reads a value, blanks before it skipped. -/
def read (s : List Char) : Reading Raw s := do
  let (c, ⟨r, hr⟩) ← readMark s
  if c = '\"' then
    let (us, ⟨q, hq⟩) ← readString r
    return (.string us, ⟨q, by omega⟩)
  else if c = '[' then
    let (d, ⟨q, hq⟩) ← readMark r
    if d = ']' then return (.array [], ⟨q, by omega⟩)
    else
      let (items, ⟨q, hq⟩) ← readItems r
      return (.array items, ⟨q, by omega⟩)
  else if c = '\x7b' then
    let (d, ⟨q, hq⟩) ← readMark r
    if d = '\x7d' then return (.object [], ⟨q, by omega⟩)
    else
      let (members, ⟨q, hq⟩) ← readMembers r
      return (.object members, ⟨q, by omega⟩)
  else if c = 'n' then
    let ⟨q, hq⟩ ← dropWord ['u', 'l', 'l'] r
    return (.null, ⟨q, by omega⟩)
  else if c = 't' then
    let ⟨q, hq⟩ ← dropWord ['r', 'u', 'e'] r
    return (.bool true, ⟨q, by omega⟩)
  else if c = 'f' then
    let ⟨q, hq⟩ ← dropWord ['a', 'l', 's', 'e'] r
    return (.bool false, ⟨q, by omega⟩)
  else
    let (n, q) ← readNumber s
    return (.number n, q)
termination_by (s.length, 0)

/-- Reads items up to the closing bracket. -/
def readItems (s : List Char) : Reading (List Raw) s := do
  let (v, ⟨r, hr⟩) ← read s
  let (c, ⟨q, hq⟩) ← readMark r
  if c = ',' then
    let (vs, ⟨t, ht⟩) ← readItems q
    return (v :: vs, ⟨t, by omega⟩)
  else if c = ']' then return ([v], ⟨q, by omega⟩)
  else none
termination_by (s.length, 1)

/-- Reads members up to the closing brace. -/
def readMembers (s : List Char) : Reading (List (List RawChar × Raw)) s := do
  let (quote, ⟨r, hr⟩) ← readMark s
  if quote = '\"' then
    let (key, ⟨q, hq⟩) ← readString r
    let (colon, ⟨t, ht⟩) ← readMark q
    if colon = ':' then
      let (v, ⟨u, hu⟩) ← read t
      let (c, ⟨w, hw⟩) ← readMark u
      if c = ',' then
        let (ms, ⟨x, hx⟩) ← readMembers w
        return ((key, v) :: ms, ⟨x, by omega⟩)
      else if c = '\x7d' then return ([(key, v)], ⟨w, by omega⟩)
      else none
    else none
  else none
termination_by (s.length, 1)

end

/-- Reads a document that is all of the text. -/
def ofText? (s : String) : Option Raw :=
  match read s.toList with
  | some (v, ⟨r, _⟩) => if (skipBlanks r).isEmpty then some v else none
  | none => none

end Raw

end Json

end RecordFilter
