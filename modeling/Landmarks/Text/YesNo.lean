import Landmarks.Text.Blank
import Landmarks.Text.Case
import Landmarks.Text.Search

/-!
# Words for yes and no

* `yesNo?` : the truth value that a word of a configuration or a command stands for.
-/

namespace Landmarks.Text

/-- The words for yes. -/
def yesWords : List String := ["true", "yes", "on", "1"]

/-- The words for no. -/
def noWords : List String := ["false", "no", "off", "0"]

/-- The truth value of a word; white space around it and letter case do not matter. -/
def yesNo? (cs : List Char) : Option Bool :=
  let key := lower (trim cs)
  if isAny yesWords key then some true else if isAny noWords key then some false else none

end Landmarks.Text
