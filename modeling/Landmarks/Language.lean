import Landmarks.Path
import Landmarks.Text.Blank
import Landmarks.Text.Case
import Landmarks.Text.Quoted
import Landmarks.Text.Search

/-!
# Languages

* `Mode` : the two rule sets.
* `Mode.parse` : the rule set of a name, or `UnknownMode`.
* `Mode.detect`, `isKnownSource` : the rule set of a file by its suffix, and whether the suffix is
  known at all.
-/

namespace Landmarks

open Text

/-- A set of rules for a family of languages. -/
inductive Mode
  | clike
  | csharp
  deriving DecidableEq, Repr

/-- A name that denotes no rule set. -/
structure UnknownMode where
  value : String
  deriving DecidableEq, Repr

/-- What is said of an unknown name. -/
def UnknownMode.message (e : UnknownMode) : String :=
  "Unknown language mode: " ++ quoteString e.value

namespace Mode

/-- All rule sets. -/
def all : List Mode := [clike, csharp]

/-- The name of a rule set. -/
def name : Mode → String
  | clike => "clike"
  | csharp => "csharp"

/-- The names that denote a rule set, in lower case. -/
def names : Mode → List String
  | clike => ["clike", "c_like", "c", "c++", "cpp", "cxx"]
  | csharp => ["csharp", "csharp_like", "c#", "cs", "c_sharp"]

/-- The rule set of a name; white space around it and letter case do not matter. -/
def parse (value : String) : Except UnknownMode Mode :=
  let key := lower (trim value.toList)
  match all.find? fun m => isAny m.names key with
  | some m => .ok m
  | none => .error ⟨value⟩

end Mode

/-- The suffixes of C# files. -/
def csharpSuffixes : List String := [".cs", ".csx"]

/-- The suffixes of files of the C family, in order. -/
def clikeSuffixes : List String :=
  [".c", ".c++", ".cc", ".cpp", ".cu", ".cuh", ".cxx", ".h", ".h++", ".hh", ".hpp", ".hxx", ".inl",
    ".ipp", ".m", ".mm", ".tpp"]

/-- A suffix as it is compared: trimmed, in lower case, with a dot in front. None if nothing is
left. -/
def normaliseSuffix? (s : String) : Option (List Char) :=
  match lower (trim s.toList) with
  | [] => none
  | '.' :: rest => some ('.' :: rest)
  | cs => some ('.' :: cs)

/-- Suffixes as they are compared, each once. -/
def normaliseSuffixes (ss : List String) : List (List Char) :=
  (ss.filterMap normaliseSuffix?).eraseDups

/-- Whether a path has one of the suffixes. -/
def hasSuffix (suffixes : List String) (p : Path) : Bool :=
  (normaliseSuffixes suffixes).contains (lower p.suffix)

/-- The rule set of a file: C# by its suffix, else the C family, whose rules are the more careful
ones. -/
def Mode.detect (csharp : List String) (p : Path) : Mode :=
  if hasSuffix csharp p then .csharp else .clike

/-- Whether a file has a suffix of either family. -/
def isKnownSource (csharp clike : List String) (p : Path) : Bool :=
  hasSuffix csharp p || hasSuffix clike p

end Landmarks
