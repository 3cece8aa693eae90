import Landmarks.Json.Basic
import Landmarks.Number.Shortest
import Landmarks.Text.Span

/-!
# Writing JSON

Everything is written in ASCII: other characters are escaped, those beyond the basic plane as a
pair of code units, and half a pair as its unit.

* `Json.compact` : on one line.
* `Json.pretty` : one item a line, two columns a level.
* `Json.sortKeys` : the same value with all fields in the order of their names.
-/

namespace Landmarks.Json

/-- The words for floating-point values without digits. -/
def spelling : Spelling := ⟨"NaN", "Infinity"⟩

/-- A code unit as an escape. -/
def unitEscape (n : Nat) : List Char := '\\' :: 'u' :: Text.hexDigits 4 n

/-- One character of a string. -/
def escape (c : Char) : List Char :=
  match c with
  | '"' => ['\\', '"']
  | '\\' => ['\\', '\\']
  | '\n' => ['\\', 'n']
  | '\r' => ['\\', 'r']
  | '\t' => ['\\', 't']
  | '\x0c' => ['\\', 'f']
  | '\x08' => ['\\', 'b']
  | _ =>
    let n := c.toNat
    if 0x20 ≤ n && n ≤ 0x7E then [c]
    else if n < 0x10000 then unitEscape n
    else unitEscape (0xD800 + (n - 0x10000) / 0x400) ++ unitEscape (0xDC00 + (n - 0x10000) % 0x400)

/-- One point of a string. -/
def escapePoint : Text.Point → List Char
  | .char c => escape c
  | .half n => unitEscape (0xD800 + n)

/-- A string between its quotes. -/
def quoted (s : Str) : List Char := '"' :: s.points.flatMap escapePoint ++ ['"']

/-- A value that is no array and no object. -/
def scalarText : Json → List Char
  | bool true => "true".toList
  | bool false => "false".toList
  | int i => (toString i).toList
  | float x => (x.text spelling).toList
  | str s => quoted s
  | _ => "null".toList

mutual

/-- On one line. -/
def compactChars : Json → List Char
  | arr xs => '[' :: compactItems xs ++ [']']
  | obj fs => '{' :: compactFields fs ++ ['}']
  | v => scalarText v

/-- The items of an array on one line. -/
def compactItems : List Json → List Char
  | [] => []
  | [x] => compactChars x
  | x :: y :: rest => compactChars x ++ ',' :: compactItems (y :: rest)

/-- The fields of an object on one line. -/
def compactFields : List (Str × Json) → List Char
  | [] => []
  | [(k, v)] => quoted k ++ ':' :: compactChars v
  | (k, v) :: f :: rest => quoted k ++ ':' :: compactChars v ++ ',' :: compactFields (f :: rest)

end

/-- A line break and the indent of a level. -/
def newline (level : Nat) : List Char := '\n' :: List.replicate (2 * level) ' '

mutual

/-- One item a line; the value itself starts in the current column of a level. -/
def prettyChars (level : Nat) : Json → List Char
  | arr [] => ['[', ']']
  | arr (x :: xs) => '[' :: prettyItems (level + 1) (x :: xs) ++ newline level ++ [']']
  | obj [] => ['{', '}']
  | obj (f :: fs) => '{' :: prettyFields (level + 1) (f :: fs) ++ newline level ++ ['}']
  | v => scalarText v

/-- The items of an array, each behind a line break. -/
def prettyItems (level : Nat) : List Json → List Char
  | [] => []
  | [x] => newline level ++ prettyChars level x
  | x :: y :: rest => newline level ++ prettyChars level x ++ ',' :: prettyItems level (y :: rest)

/-- The fields of an object, each behind a line break. -/
def prettyFields (level : Nat) : List (Str × Json) → List Char
  | [] => []
  | [(k, v)] => newline level ++ quoted k ++ ':' :: ' ' :: prettyChars level v
  | (k, v) :: f :: rest =>
    newline level ++ quoted k ++ ':' :: ' ' :: prettyChars level v ++
      ',' :: prettyFields level (f :: rest)

end

/-- Fields in the order of their names with one more, before those of its own name. -/
def insertField (f : Str × Json) : List (Str × Json) → List (Str × Json)
  | [] => [f]
  | g :: gs => if f.1 ≤ g.1 then f :: g :: gs else g :: insertField f gs

mutual

/-- The same value with the fields of every object in the order of their names. -/
def sortKeys : Json → Json
  | arr xs => arr (sortItems xs)
  | obj fs => obj (sortFields fs)
  | v => v

/-- `sortKeys` on every item. -/
def sortItems : List Json → List Json
  | [] => []
  | x :: xs => sortKeys x :: sortItems xs

/-- `sortKeys` on every value, and the fields in order. -/
def sortFields : List (Str × Json) → List (Str × Json)
  | [] => []
  | (k, v) :: fs => insertField (k, sortKeys v) (sortFields fs)

end

/-- A value on one line. -/
def compact (j : Json) : String := String.ofList (compactChars j)

/-- A value with one item a line. -/
def pretty (j : Json) : String := String.ofList (prettyChars 0 j)

end Landmarks.Json
