import Landmarks.Text.Span
import Landmarks.Text.WordTable

/-!
# Word characters

* `isWord` : letters, digits, numerals and the underscore.
-/

namespace Landmarks.Text

/-- Letters of any script, digits, other numerals and the underscore. -/
def isWord (c : Char) : Bool :=
  let n := c.toNat
  if n < 0x80 then
    (0x30 ≤ n && n ≤ 0x39) || (0x41 ≤ n && n ≤ 0x5A) || (0x61 ≤ n && n ≤ 0x7A) || n == 0x5F
  else inSpans wordSpans n

end Landmarks.Text
