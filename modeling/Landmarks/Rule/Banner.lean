import Landmarks.Rule.Name

/-!
# Banners

Section banners are comments that start with decoration, such as `// == Setup ==`.

* `Banner.title` : the text of a banner without comment marks and decoration.
* `Banner.find` : the display name of a banner line.
-/

namespace Landmarks.Rule.Banner

open Text

/-- What a comment starts with. -/
def openers : List String := ["//", "/*"]

/-- What the inside of a banner starts with. -/
def decorations : List String := ["==", "--", "##", "**"]

/-- Comment marks and the blanks between them. -/
def isCommentMark (c : Char) : Bool := c == '/' || c == '*' || c == ' ' || c == '\t'

/-- Decoration and the blanks in it. -/
def isDecoration (c : Char) : Bool :=
  c == '=' || c == '-' || c == '#' || c == '*' || c == ' ' || c == '\t'

/-- The title of a banner: comment marks go from the front, then decoration from both ends. -/
def title (cs : List Char) : List Char :=
  truncate (strip isDecoration (stripStart isCommentMark cs))

/-- The title, if the line is a banner. -/
def find (cs : List Char) : Option (List Char) :=
  if startsWithAny openers cs && startsWithAny decorations (trim (cs.drop 2)) then some (title cs)
  else none

end Landmarks.Rule.Banner
