import Landmarks.Rule.Name
import Landmarks.Text.Backtrack
import Landmarks.Text.Word

/-!
# Heads of type declarations

* `TypeHead.pickName` : the type name among export macros and qualifiers.
* `TypeHead.findCpp` : the name behind `class` or `struct`, with an optional template head.
* `TypeHead.findCsharp` : the name behind modifiers and `class`, `struct`, `interface` or `record`.
-/

namespace Landmarks.Rule.TypeHead

open Text

/-- The ends of names of export macros. -/
def macroSuffixes : List String := ["_API", "_EXPORT"]

/-- The words behind a type name that belong to its declaration. -/
def qualifiers : List String := ["final", "abstract"]

/-- An ASCII capital or an underscore. -/
def isNameStart (c : Char) : Bool := ('A' ≤ c && c ≤ 'Z') || c == '_'

/-- A capital or an underscore, then word characters. -/
def isTypeName : List Char → Bool
  | [] => false
  | c :: cs => isNameStart c && cs.all isWord

/-- Whether a word of a declaration can be the name of the type. -/
def canName (w : List Char) : Bool :=
  !endsWithAny macroSuffixes w && !isAny qualifiers (lower w) && isTypeName w

/-- The last word that can be the name of the type. -/
def pickName (captured : List Char) : Option (List Char) := (words captured).reverse.find? canName

/-- A template head, with the blanks behind it. -/
def template {α : Type} (k : Next α) : Next α :=
  word "template".toList <| many isBlank <| one (· == '<') <| many (· != '>') <|
    one (· == '>') <| many isBlank k

/-- What ends the part of a declaration that holds the name: a base list, a body, a line break, or
the end of the text. -/
def closing {α : Type} (k : Next α) : Next α := fun cs =>
  orElse (many isBlank (one (fun c => c == ':' || c == '{' || c == '\r' || c == '\n') k) cs)
    (atEnd k cs)

/-- What stands between the keyword and the base list or body. -/
def cppDeclared : List Char → Option (List Char) :=
  many isBlank <| optionally template <| anyOf ["class".toList, "struct".toList] <|
    many1 isBlank <| grabLeast (· != '\n') fun captured => closing fun _ => some captured

/-- The type a line of the C family declares. -/
def findCpp (cs : List Char) : Option (List Char) :=
  if isBlankOrComment cs then none
  else (cppDeclared cs).bind fun captured => (pickName captured).map truncate

/-- The words that may stand before the keyword. -/
def csharpModifiers : List (List Char) :=
  ["public", "private", "protected", "internal", "static", "sealed", "abstract", "partial"].map
    String.toList

/-- The keywords that declare a type. -/
def csharpKeywords : List (List Char) :=
  ["class", "struct", "interface", "record"].map String.toList

/-- The word behind the keyword. -/
def csharpDeclared : List Char → Option (List Char) :=
  many isBlank <| manyOf csharpModifiers (many1 isBlank) <| anyOf csharpKeywords <|
    many1 isBlank <| grab isWord fun name _ => some name

/-- The type a line of C# declares. -/
def findCsharp (cs : List Char) : Option (List Char) :=
  if isBlankOrComment cs then none else (csharpDeclared cs).map truncate

end Landmarks.Rule.TypeHead
