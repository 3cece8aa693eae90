/-!
# Markers

* `Kind` : the four kinds of structural line.
* `Marker` : a kind and a display name at a place of a document.
-/

namespace Landmarks

/-- What a marked line is. -/
inductive Kind
  | header
  | function
  | type
  | accessSpecifier
  deriving DecidableEq, Repr

/-- The name of a kind in every kind of output. -/
def Kind.name : Kind → String
  | .header => "header"
  | .function => "function"
  | .type => "class"
  | .accessSpecifier => "access_specifier"

/-- A structural line: its kind, its display name, where it starts and its number. -/
structure Marker where
  kind : Kind
  name : List Char
  offset : Int := 0
  line : Int := 0
  deriving DecidableEq, Repr

end Landmarks
