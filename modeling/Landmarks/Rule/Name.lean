import Landmarks.Text.Blank
import Landmarks.Text.Case
import Landmarks.Text.Search

/-!
# Names

* `truncate` : a display name has at most twenty characters.
* `isKeyword` : words that look like calls and are no function names.
* `isMacroName` : names in capitals.
* `isBlankOrComment` : lines that declare nothing.
-/

namespace Landmarks.Rule

open Text

/-- The greatest length of a display name. -/
def maxNameLength : Nat := 20

/-- The first `limit` characters; a negative limit leaves out as many at the end. -/
def truncateTo (limit : Int) (name : List Char) : List Char :=
  if 0 ≤ limit then name.take limit.toNat else name.take (name.length - (-limit).toNat)

/-- A name as it is displayed. -/
def truncate (name : List Char) : List Char := truncateTo maxNameLength name

/-- The words that look like calls. -/
def keywords : List String :=
  ["if", "while", "for", "switch", "return", "throw", "catch", "sizeof", "typeof", "delete", "new"]

/-- Whether a name is, in any letter case, a word that looks like a call. -/
def isKeyword (name : List Char) : Bool := isAny keywords (lower name)

/-- Whether all characters other than underscores are capitals, of which there is one. The empty name
counts too. -/
def isMacroName (name : List Char) : Bool :=
  name.isEmpty ||
    (let letters := name.filter (· != '_')
     !letters.isEmpty && letters.all isUpper)

/-- Whether a line is blank or a comment to its end. -/
def isBlankOrComment (cs : List Char) : Bool :=
  (trim cs).isEmpty || "//".toList.isPrefixOf (trimStart cs)

theorem length_truncate_le (name : List Char) : (truncate name).length ≤ maxNameLength := by
  rw [truncate, truncateTo, if_pos (by decide), List.length_take]
  exact Nat.min_le_left _ _

end Landmarks.Rule
