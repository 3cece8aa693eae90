/-!
# White space

* `isBlank` : the characters that count as white space, in every part of the library.
* `stripStart`, `stripEnd`, `strip` : cut a class of characters from the ends of a text.
* `trimStart`, `trim` : the same for white space.
* `words` : the pieces of a text between white space.
-/

namespace Landmarks.Text

/-- White space: tab to carriage return, the four information separators, the space, next line, the
no-break space and the other Unicode separators. The zero-width space is not among them. -/
def isBlank (c : Char) : Bool :=
  let n := c.toNat
  (0x09 ≤ n && n ≤ 0x0D) || (0x1C ≤ n && n ≤ 0x20) || n == 0x85 || n == 0xA0 || n == 0x1680 ||
    (0x2000 ≤ n && n ≤ 0x200A) || n == 0x2028 || n == 0x2029 || n == 0x202F || n == 0x205F ||
    n == 0x3000

/-- Without the longest run of `p` characters at the front. -/
def stripStart (p : Char → Bool) (cs : List Char) : List Char := cs.dropWhile p

/-- Without the longest run of `p` characters at the back. -/
def stripEnd (p : Char → Bool) (cs : List Char) : List Char := (cs.reverse.dropWhile p).reverse

/-- Without the `p` characters at either end. -/
def strip (p : Char → Bool) (cs : List Char) : List Char := stripEnd p (stripStart p cs)

/-- Without leading white space. -/
def trimStart (cs : List Char) : List Char := stripStart isBlank cs

/-- Without white space at either end. -/
def trim (cs : List Char) : List Char := strip isBlank cs

/-- The non-empty pieces between white space, in order. -/
def words (cs : List Char) : List (List Char) := (cs.splitOnP isBlank).filter (!·.isEmpty)

@[simp] theorem trimStart_nil : trimStart [] = [] := rfl

end Landmarks.Text
