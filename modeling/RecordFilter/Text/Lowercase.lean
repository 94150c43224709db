import RecordFilter.Text.CaseTable

/-!
# Lowercase

The full lowercase form of a text. A capital sigma becomes the final one at the end of a word:
where a cased character comes before it and none after it, case-ignorable ones passed over. The
capital I with a dot becomes an i and a combining dot.
-/

namespace RecordFilter.Text

def inRanges (ranges : List (Nat × Nat)) (c : Char) : Bool :=
  ranges.any fun (first, last) => first ≤ c.toNat && c.toNat ≤ last

def isCased (c : Char) : Bool :=
  inRanges casedRanges c

def isCaseIgnorable (c : Char) : Bool :=
  inRanges caseIgnorableRanges c

/-- The distance from a character to its lowercase form. -/
def lowercaseDistance (n : Nat) : Int :=
  match lowercaseRuns.find? fun (first, last, step, _) =>
      first ≤ n && n ≤ last && (n - first) % step == 0 with
  | some (_, _, _, distance) => distance
  | none => 0

/-- The lowercase form of a character by itself. -/
def lowerChar (c : Char) : List Char :=
  if c.toNat < 128 then [c.toLower]
  else if c = '\u0130' then ['i', '\u0307']
  else [Char.ofNat (c.toNat + lowercaseDistance c.toNat).toNat]

/-- Whether the first character that is not case-ignorable is cased. -/
def meetsCased (s : List Char) : Bool :=
  ((s.dropWhile isCaseIgnorable).head?.map isCased).getD false

/-- The lowercase form of a text; `before` is what precedes it, in reverse. -/
def lowerFrom (before : List Char) : List Char → List Char
  | [] => []
  | c :: r =>
    (if c = 'Σ' then [if meetsCased before && !meetsCased r then 'ς' else 'σ'] else lowerChar c) ++
      lowerFrom (c :: before) r

def lowercase (s : List Char) : List Char :=
  lowerFrom [] s

def lowered (s : String) : String :=
  String.ofList (lowercase s.toList)

/-! ## ASCII -/

/-- The text with the capital letters of ASCII made small. -/
def asciiLowered (s : String) : String :=
  String.ofList (s.toList.map Char.toLower)

/-- The text with the small letters of ASCII made capital. -/
def asciiRaised (s : String) : String :=
  String.ofList (s.toList.map Char.toUpper)

end RecordFilter.Text
