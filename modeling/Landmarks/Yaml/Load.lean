import Landmarks.Yaml.Document
import Landmarks.Yaml.Reading

/-!
# Loading a document

* `Yaml.load` : the one document of a text.
-/

namespace Landmarks.Yaml

/-- The one document of a text; an empty text has none. -/
def load (cs : List Char) : Except Error (Option Document) := do
  match ← Graph.ofTokens (Tokens.ofText cs) with
  | some (g, root) => return some (← Document.ofGraph g root)
  | none => return none

end Landmarks.Yaml
