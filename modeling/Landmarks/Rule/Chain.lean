import Landmarks.Flags
import Landmarks.Language
import Landmarks.Marker
import Landmarks.Rule.AccessLabel
import Landmarks.Rule.Banner
import Landmarks.Rule.FunctionHead
import Landmarks.Rule.TypeHead

/-!
# Rules and their order

* `Shape` : the shapes of structural lines that the library knows, in order of precedence.
* `Mode.chain` : the shapes that belong to a rule set.
* `Rule` : a shape, or a rule of any other origin. It may fail.
* `classify` : the marker of a line. The first rule that is switched on and fits decides. `classifyWith` : the same for
  any rules.
-/

namespace Landmarks

open Text

/-- A shape of structural lines. -/
inductive Shape
  | banner
  | cppType
  | csharpType
  | cppFunction
  | csharpFunction
  | accessLabel
  deriving DecidableEq, Repr

namespace Shape

/-- All shapes; an earlier one wins. -/
def all : List Shape := [banner, cppType, csharpType, cppFunction, csharpFunction, accessLabel]

/-- The kind of marker a shape gives. -/
def kind : Shape → Kind
  | banner => .header
  | cppType | csharpType => .type
  | cppFunction | csharpFunction => .function
  | accessLabel => .accessSpecifier

/-- The flag that switches a shape on. -/
def flag : Shape → Flag
  | banner => .headers
  | cppType | csharpType => .classes
  | cppFunction | csharpFunction => .functions
  | accessLabel => .accessSpecifiers

/-- Whether a shape belongs to a rule set. -/
def supports : Shape → Mode → Bool
  | banner, _ => true
  | cppType, m | cppFunction, m | accessLabel, m => m == .clike
  | csharpType, m | csharpFunction, m => m == .csharp

/-- Whether a shape is switched on. -/
def enabled (s : Shape) (flags : Flags) : Bool := flags.get s.flag

/-- The display name that a shape gives a line, if the line has the shape. -/
def find (s : Shape) (flags : Flags) (cs : List Char) : Except Fault (Option (List Char)) :=
  match s with
  | banner => .ok (Rule.Banner.find cs)
  | cppType => .ok (Rule.TypeHead.findCpp cs)
  | csharpType => .ok (Rule.TypeHead.findCsharp cs)
  | cppFunction => .ok (Rule.FunctionHead.findCpp cs)
  | csharpFunction => .ok (Rule.FunctionHead.findCsharp cs)
  | accessLabel => Rule.AccessLabel.find flags.shortenAccessSpecifiers cs

end Shape

/-- The shapes of a rule set; an earlier one wins. -/
def Mode.chain (m : Mode) : List Shape := Shape.all.filter (·.supports m)

/-- A marker for a display name; a blank one gives none. -/
def markerOf (kind : Kind) (name : List Char) : Option Marker :=
  if (trim name).isEmpty then none else some { kind, name }

/-- A rule of any origin: it may answer with a display name, let the line pass, or fail. -/
structure Rule where
  kind : Kind
  flag : Flag
  find : Flags → List Char → Except Fault (Option (List Char))

/-- A shape as a rule. -/
def Shape.toRule (s : Shape) : Rule := ⟨s.kind, s.flag, s.find⟩

/-- The rules of a rule set. -/
def Mode.rules (m : Mode) : List Rule := m.chain.map Shape.toRule

/-- The marker that the first fitting rule gives a text; a rule that fails ends the search. -/
def firstFit (flags : Flags) (cs : List Char) : List Rule → Except Fault (Option Marker)
  | [] => .ok none
  | r :: rest =>
    if flags.get r.flag then
      match r.find flags cs with
      | .error fault => .error fault
      | .ok (some name) => .ok (markerOf r.kind name)
      | .ok none => firstFit flags cs rest
    else firstFit flags cs rest

/-- The marker of a line by the given rules, without a place. -/
def classifyWith (rules : List Rule) (flags : Flags) (cs : List Char) :
    Except Fault (Option Marker) :=
  firstFit flags (trimStart cs) rules

/-- The marker of a line by the rules of a rule set, without a place. -/
def classify (mode : Mode) (flags : Flags) (cs : List Char) : Except Fault (Option Marker) :=
  classifyWith mode.rules flags cs

end Landmarks
