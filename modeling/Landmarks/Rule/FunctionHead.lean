import Landmarks.Rule.Name
import Landmarks.Text.Backtrack
import Landmarks.Text.Word

/-!
# Heads of function definitions

Only heads that stand on one line are found. Calls, declarations and macros are kept out by filters
on the line before its shape is looked at.

* `FunctionHead.findCpp` : the name of a function defined in a line of the C family.
* `FunctionHead.findCsharp` : the name of a method with a block or an expression body.
-/

namespace Landmarks.Rule.FunctionHead

open Text

/-- Whether a semicolon ends something other than a block: a call or a declaration. -/
def isStatement (cs : List Char) : Bool :=
  cs.contains ';' && !List.isSuffixOf ['}'] (trim (cs.takeWhile (· != ';')))

/-- Whether a quotation mark stands before the first parenthesis. -/
def quoteBeforeParen (cs : List Char) : Bool :=
  cs.contains '(' && (cs.takeWhile (· != '(')).any fun c => c == '"' || c == '\x27'

/-- Whether a line without parentheses has accessors or an expression body. -/
def isProperty (cs : List Char) : Bool :=
  (occurs "\x7b get".toList cs || occurs "\x7b set".toList cs ||
    (occurs "=>".toList cs && cs.contains ';')) && !cs.contains '('

/-- The beginnings of control statements. -/
def controlWords : List String := ["if", "while", "for", "switch", "return"]

/-- A character of a macro's name. -/
def isMacroChar (c : Char) : Bool := ('A' ≤ c && c ≤ 'Z') || c == '_'

/-- Whether a line is the call of a macro. -/
def isMacroCall (cs : List Char) : Bool :=
  ((many isBlank <| many1 isMacroChar <| many isBlank <| one (· == '(') fun _ => some ()) cs).isSome

/-- A parameter list between parentheses. -/
def parameters {α : Type} (k : Next α) : Next α :=
  one (· == '(') <| many (· != ')') <| one (· == ')') k

/-- A word that may be missing, with the blanks behind it. -/
def qualifier {α : Type} (w : String) (k : Next α) : Next α :=
  optionally (fun k => word w.toList (many isBlank k)) k

/-- What may stand before the name in the C family: return types, pointers, references, templates. -/
def isCppLead (c : Char) : Bool :=
  isWord c || isBlank c || c == '*' || c == '&' || c == '<' || c == '>' || c == ':' || c == ','

/-- What follows the parameters of a definition in the C family. -/
def cppTail {α : Type} (k : Next α) : Next α :=
  many isBlank <| qualifier "const" <| qualifier "override" <| qualifier "final" <| many isBlank <|
    fun cs => orElse (one (· == '{') k cs) (atEnd k cs)

/-- A scope such as `Widget::`. -/
def scope {α : Type} (k : Next α) : Next α := many1 isWord (word "::".toList k)

/-- The name of a function whose definition has the shape of the C family. -/
def cppName : List Char → Option (List Char) :=
  many isBlank <| optionally (fun k => many1 isCppLead (many1 isBlank k)) <| optionally scope <|
    grab isWord fun name => many isBlank <| parameters <| cppTail fun _ => some name

/-- Whether the last place of a name in a line is a call in capitals. -/
def isMacroUse (name cs : List Char) : Bool :=
  match restAfterLast? name cs with
  | some ('(' :: _) => isMacroName name
  | _ => false

/-- Whether the filters let a line of the C family through. -/
def cppCandidate (cs : List Char) : Bool :=
  let inner := trim cs
  !isBlankOrComment cs && !isStatement inner && !quoteBeforeParen inner &&
    !startsWithAny controlWords inner && !isMacroCall inner && inner.contains '('

/-- The function a line of the C family defines. -/
def findCpp (cs : List Char) : Option (List Char) :=
  if cppCandidate cs then
    (cppName cs).bind fun name =>
      if isMacroUse name cs || isKeyword name then none else some (truncate name)
  else none

/-- The words that may open a method. -/
def csharpModifiers : List (List Char) :=
  ["public", "private", "protected", "internal", "static", "virtual", "override", "async", "sealed",
    "abstract", "extern", "unsafe"].map String.toList

/-- What may stand before the name in C#. -/
def isCsharpLead (c : Char) : Bool :=
  isWord c || isBlank c || c == '<' || c == '>' || c == '[' || c == ']' || c == ',' || c == '*' ||
    c == '&' || c == '?'

/-- What follows the parameters of a method. -/
def csharpTail {α : Type} (k : Next α) : Next α :=
  many isBlank fun cs =>
    orElse (word "=>".toList k cs) (orElse (one (· == '{') k cs) (atEnd k cs))

/-- The name of a function whose definition has the shape of C#. -/
def csharpName : List Char → Option (List Char) :=
  many isBlank <| manyOf csharpModifiers id <| many isBlank <|
    optionally (fun k => many1 isCsharpLead (many1 isBlank k)) <|
      grab isWord fun name => many isBlank <| parameters <| csharpTail fun _ => some name

/-- Whether the filters let a line of C# through. -/
def csharpCandidate (cs : List Char) : Bool :=
  let inner := trim cs
  !isBlankOrComment cs && !List.isPrefixOf ['['] inner && !isProperty inner && inner.contains '('

/-- The method a line of C# defines. -/
def findCsharp (cs : List Char) : Option (List Char) :=
  if csharpCandidate cs then
    (csharpName cs).bind fun name => if isKeyword name then none else some (truncate name)
  else none

end Landmarks.Rule.FunctionHead
