/-!
# Blank characters

A character is blank when it has the Unicode property `White_Space`. Trimming drops the blank
characters at the ends of a text.
-/

namespace RecordFilter.Text

/-- The characters with the property `White_Space`. -/
def isBlank (c : Char) : Bool :=
  let n := c.toNat
  (9 ≤ n && n ≤ 13) || n == 0x20 || n == 0x85 || n == 0xA0 || n == 0x1680 ||
    (0x2000 ≤ n && n ≤ 0x200A) || n == 0x2028 || n == 0x2029 || n == 0x202F || n == 0x205F ||
    n == 0x3000

def trimStart (s : List Char) : List Char :=
  s.dropWhile isBlank

def trimEnd (s : List Char) : List Char :=
  (s.reverse.dropWhile isBlank).reverse

def trim (s : List Char) : List Char :=
  trimEnd (trimStart s)

/-- The text between the first and the last character that is not blank. -/
def trimmed (s : String) : String :=
  String.ofList (trim s.toList)

end RecordFilter.Text
