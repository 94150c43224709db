import RecordFilter.Text.Lowercase
import RecordFilter.Text.PrintableTable

/-!
# Quoted texts

A text in double quotes, in which quotes, backslashes and all that would not show are escaped.
-/

namespace RecordFilter.Text

/-- The code of a character in hexadecimal digits and braces. -/
def codeEscape (c : Char) : List Char :=
  ['\\', 'u', '\x7b'] ++ Nat.toDigits 16 c.toNat ++ ['\x7d']

/-- The halfwidth sound marks belong to the letter before them, but have a width of their own. -/
def isSoundMark (c : Char) : Bool :=
  c = '\uff9e' || c = '\uff9f'

/-- The Hangul fillers count as letters, but have no shape. -/
def isFiller (c : Char) : Bool :=
  c = '\u115f' || c = '\u1160' || c = '\u3164' || c = '\uffa0'

/-- Whether a character is seen when it stands alone. -/
def shows (c : Char) : Bool :=
  isSoundMark c ||
    !(isFiller c || inRanges extendRanges c || inRanges unprintableRanges c)

def quoteChar (c : Char) : List Char :=
  if c = '\x00' then ['\\', '0']
  else if c = '\t' then ['\\', 't']
  else if c = '\r' then ['\\', 'r']
  else if c = '\n' then ['\\', 'n']
  else if c = '\\' || c = '\"' then ['\\', c]
  else if shows c then [c]
  else codeEscape c

def quoted (s : String) : String :=
  String.ofList ('\"' :: s.toList.flatMap quoteChar ++ ['\"'])

/-- Quoted texts with commas between them. -/
def quotedList (ss : List String) : String :=
  ", ".intercalate (ss.map quoted)

end RecordFilter.Text
