import Landmarks.Fault
import Landmarks.Rule.Name

/-!
# Access labels

Labels such as `public:`, `signals:` and `private slots:`.

* `AccessLabel.isSpecifier` : what such a label names.
* `AccessLabel.shorten` : its short form, word by word. A label of too many words has none.
* `AccessLabel.find` : the display name of a label line.
-/

namespace Landmarks.Rule.AccessLabel

open Text

/-- The specifiers that may stand before others. -/
def standard : List String := ["public", "private", "protected"]

/-- The specifiers of signals and slots. -/
def signalLike : List String := ["signals", "slots", "Q_SIGNALS", "Q_SLOTS"]

/-- Every specifier with its short form. -/
def shortForms : List (String × String) :=
  [("public", "pub"), ("private", "priv"), ("protected", "prot"), ("signals", "sig"),
    ("slots", "slot"), ("Q_SIGNALS", "Q_SIG"), ("Q_SLOTS", "Q_SLOT")]

/-- The short form of one specifier. -/
def shortForm? (cs : List Char) : Option (List Char) :=
  (shortForms.find? fun p => p.1.toList == cs).map (·.2.toList)

/-- The specifiers that may stand before others, each with its space. -/
def leads : List (List Char) := standard.map fun w => w.toList ++ [' ']

/-- Whether a text names an access section. -/
def isSpecifier (cs : List Char) : Bool :=
  isAny standard cs || isAny signalLike cs || leads.any (·.isPrefixOf cs)

/-- The leading specifier of a text in short form, and what follows its space. -/
def splitLead? (cs : List Char) : Option (List Char × List Char) :=
  (leads.find? (·.isPrefixOf cs)).map fun lead =>
    ((shortForm? lead.dropLast).getD lead.dropLast, cs.drop lead.length)

/-- The short form of a specifier; leading words are shortened in turn. Each of them takes a call inside the one
before it, and there is room for so many calls only. -/
def shorten : (room : Nat) → List Char → Except Fault (List Char)
  | 0, _ => .error .tooDeep
  | room + 1, cs =>
    match shortForm? cs with
    | some short => .ok short
    | none =>
      match splitLead? cs with
      | some (head, rest) => (shorten room rest).map fun short => head ++ ' ' :: short
      | none => .ok cs

/-- A specifier as it is shown. -/
def display (short : Bool) (specifier : List Char) : Except Fault (List Char) :=
  if short then shorten maxDepth specifier else .ok specifier

/-- The access section a label line opens. -/
def find (short : Bool) (cs : List Char) : Except Fault (Option (List Char)) :=
  let inner := trim cs
  if [':'].isSuffixOf inner then
    let specifier := trim (stripEnd (· == ':') inner)
    if isSpecifier specifier then (display short specifier).map fun shown => some (truncate shown)
    else .ok none
  else .ok none

end Landmarks.Rule.AccessLabel
