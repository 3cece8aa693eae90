/-!
# Searching a text

* `occurs` : whether a text stands somewhere in another.
* `restAfterLast?` : what follows the last place where a text stands.
* `startsWithAny`, `endsWithAny` : one of several texts at either end.
-/

namespace Landmarks.Text

/-- Whether `w` stands somewhere in a text. -/
def occurs (w : List Char) : List Char → Bool
  | [] => w.isEmpty
  | c :: cs => w.isPrefixOf (c :: cs) || occurs w cs

/-- What follows the last place where `w` stands. -/
def restAfterLast? (w : List Char) : List Char → Option (List Char)
  | [] => if w.isEmpty then some [] else none
  | c :: cs =>
    match restAfterLast? w cs with
    | some rest => some rest
    | none => if w.isPrefixOf (c :: cs) then some ((c :: cs).drop w.length) else none

/-- Whether a text starts with one of the words. -/
def startsWithAny (ws : List String) (cs : List Char) : Bool := ws.any (·.toList.isPrefixOf cs)

/-- Whether a text ends with one of the words. -/
def endsWithAny (ws : List String) (cs : List Char) : Bool := ws.any (·.toList.isSuffixOf cs)

/-- Whether a text is one of the words. -/
def isAny (ws : List String) (cs : List Char) : Bool := ws.any (·.toList == cs)

end Landmarks.Text
