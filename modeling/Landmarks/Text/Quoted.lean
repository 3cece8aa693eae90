import Landmarks.Str
import Landmarks.Text.PrintableTable

/-!
# Quoted text

* `quote` : a text between quotes, as messages show it. Single quotes stand around it unless it has
  single quotes and no double ones; what cannot be printed is escaped.
* `quoteStr` : the same for strings with halves of pairs, which cannot be printed.
-/

namespace Landmarks.Text

/-- Whether a character is shown as it is. -/
def isPrintable (c : Char) : Bool :=
  let n := c.toNat
  if n < 0x80 then 0x20 ≤ n && n ≤ 0x7E else inSpans printableSpans n

/-- A numeric escape: two, four or eight hexadecimal digits, the fewest that hold the code. -/
def numericEscape (n : Nat) : List Char :=
  if n < 0x100 then '\\' :: 'x' :: hexDigits 2 n
  else if n < 0x10000 then '\\' :: 'u' :: hexDigits 4 n
  else '\\' :: 'U' :: hexDigits 8 n

/-- One character of a text that stands between two `mark`s. -/
def quoteChar (mark c : Char) : List Char :=
  if c == mark || c == '\\' then ['\\', c]
  else if c == '\n' then ['\\', 'n']
  else if c == '\r' then ['\\', 'r']
  else if c == '\t' then ['\\', 't']
  else if isPrintable c then [c]
  else numericEscape c.toNat

/-- The quotation mark to put around a text. -/
def quoteMark (cs : List Char) : Char :=
  if cs.contains '\x27' && !cs.contains '"' then '"' else '\x27'

/-- A text between quotation marks. -/
def quote (cs : List Char) : List Char :=
  let mark := quoteMark cs
  mark :: cs.flatMap (quoteChar mark) ++ [mark]

/-- A string between quotation marks. -/
def quoteString (s : String) : String := String.ofList (quote s.toList)

/-- One point of a string that stands between two `mark`s. -/
def quotePoint (mark : Char) : Point → List Char
  | .char c => quoteChar mark c
  | .half n => numericEscape (0xD800 + n)

/-- A string with halves of pairs between quotation marks. -/
def quoteStr (s : Str) : String :=
  let mark := quoteMark s.toChars
  String.ofList (mark :: s.points.flatMap (quotePoint mark) ++ [mark])

end Landmarks.Text
