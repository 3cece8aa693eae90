import Landmarks.Encoding.Utf8
import Landmarks.Fault
import Landmarks.Json.Basic
import Landmarks.Number.Shortest
import Landmarks.Text.Quoted
import Landmarks.Yaml.Timestamp

/-!
# Values of YAML documents

* `Value` : what a document denotes. JSON values are among them (`Value.ofJson`).
* `Value.literal` : a value as messages show it; `Value.text` : a value as a text of its own.
* `Value.sameKey` : when two keys of a mapping are the same.
* `Value.showFault?` : why a value cannot be shown.
-/

namespace Landmarks.Yaml

/-- A value. A `cycle` stands for a collection inside itself. -/
inductive Value
  | null
  | bool (value : Bool)
  | int (value : Int)
  | float (value : Binary64)
  | str (value : Str)
  | bytes (value : List Utf8.Byte)
  | date (value : Date)
  | moment (value : Moment)
  | list (items : List Value)
  | map (entries : List (Value × Value))
  | set (items : List Value)
  | pair (first second : Value)
  | cycle (mapping : Bool)
  deriving Repr

namespace Value

/-- The words for floating-point values without digits. -/
def spelling : Spelling := ⟨"nan", "inf"⟩

/-- One byte between two `mark`s. -/
def byteChars (mark : Char) (b : Utf8.Byte) : List Char :=
  let c := Char.ofNat b.toNat
  if c == mark || c == '\\' then ['\\', c]
  else if c == '\n' then ['\\', 'n']
  else if c == '\r' then ['\\', 'r']
  else if c == '\t' then ['\\', 't']
  else if 0x20 ≤ b && b < 0x7F then [c]
  else '\\' :: 'x' :: Text.hexDigits 2 b.toNat

/-- Bytes as messages show them. -/
def bytesLiteral (bs : List Utf8.Byte) : String :=
  let mark := if bs.contains 0x27 && !bs.contains 0x22 then '"' else '\x27'
  String.ofList ('b' :: mark :: bs.flatMap (byteChars mark) ++ [mark])

/-- A truth value as messages show it. -/
def boolLiteral (b : Bool) : String := if b then "True" else "False"

mutual

/-- A value as messages show it. -/
def literal : Value → String
  | null => "None"
  | bool b => boolLiteral b
  | int i => toString i
  | float x => x.text spelling
  | str s => Text.quoteStr s
  | bytes bs => bytesLiteral bs
  | date d => d.literal
  | moment m => m.literal
  | list xs => "[" ++ String.intercalate ", " (literals xs) ++ "]"
  | map es => "\x7b" ++ String.intercalate ", " (entryLiterals es) ++ "\x7d"
  | set [] => "set()"
  | set (x :: xs) => "\x7b" ++ String.intercalate ", " (literals (x :: xs)) ++ "\x7d"
  | pair a b => "(" ++ literal a ++ ", " ++ literal b ++ ")"
  | cycle mapping => if mapping then "\x7b...\x7d" else "[...]"

/-- Values as messages show them. -/
def literals : List Value → List String
  | [] => []
  | x :: xs => literal x :: literals xs

/-- The entries of a mapping as messages show them. -/
def entryLiterals : List (Value × Value) → List String
  | [] => []
  | (k, v) :: es => (literal k ++ ": " ++ literal v) :: entryLiterals es

end

/-- A value as a text of its own: a string stands for itself. -/
def text : Value → Str
  | str s => s
  | date d => d.text
  | moment m => m.text
  | v => v.literal

/-- The number that a value counts as when it is compared: truth values are zero and one. -/
def number? : Value → Option (Int ⊕ Binary64)
  | bool b => some (.inl (if b then 1 else 0))
  | int i => some (.inl i)
  | float x =>
    match x.toInt? with
    | some i => some (.inl i)
    | none => some (.inr x)
  | _ => none

/-- Whether two keys of a mapping are the same. -/
def sameKey (a b : Value) : Bool :=
  match a.number?, b.number? with
  | some (.inl i), some (.inl j) => i == j
  | some (.inr x), some (.inr y) => x.sameValue y
  | some _, _ => false
  | _, some _ => false
  | none, none =>
    match a, b with
    | null, null => true
    | str s, str t => s == t
    | bytes x, bytes y => x == y
    | date x, date y => x == y
    | moment x, moment y => x.sameInstant y
    | _, _ => false

/-- Why a value cannot be shown: an integer in it is too long, or it is nested too deep. -/
inductive ShowFault
  | longInteger
  | tooDeep
  deriving DecidableEq, Repr

/-- What is said when a value cannot be shown. -/
def ShowFault.message : ShowFault → String
  | longInteger => Number.longIntegerText
  | tooDeep => Fault.tooDeep.message

mutual

/-- The first fault that is met when a value is shown, with room for so many calls inside each other: every
value that is shown takes one. -/
def showFault? : (room : Nat) → Value → Option ShowFault
  | 0, _ => some .tooDeep
  | _ + 1, int i => if Number.isWritable i then none else some .longInteger
  | room + 1, list xs | room + 1, set xs => itemsFault? room xs
  | room + 1, map es => entriesFault? room es
  | room + 1, pair a b => (showFault? room a).or (showFault? room b)
  | _ + 1, _ => none

/-- The first fault in some values. -/
def itemsFault? (room : Nat) : List Value → Option ShowFault
  | [] => none
  | x :: xs => (showFault? room x).or (itemsFault? room xs)

/-- The first fault in some entries, the key of each before its value. -/
def entriesFault? (room : Nat) : List (Value × Value) → Option ShowFault
  | [] => none
  | (k, v) :: es => ((showFault? room k).or (showFault? room v)).or (entriesFault? room es)

end

/-- The value under a key. -/
def find? (entries : List (Value × Value)) (key : String) : Option Value :=
  (entries.find? fun e => sameKey e.1 (str key)).map (·.2)

mutual

/-- A JSON value as a value. -/
def ofJson : Json → Value
  | .null => null
  | .bool b => bool b
  | .int i => int i
  | .float x => float x
  | .str s => str s
  | .arr xs => list (ofItems xs)
  | .obj fs => map (ofFields fs)

/-- JSON values as values. -/
def ofItems : List Json → List Value
  | [] => []
  | x :: xs => ofJson x :: ofItems xs

/-- The fields of a JSON object as entries. -/
def ofFields : List (Str × Json) → List (Value × Value)
  | [] => []
  | (k, v) :: fs => (str k, ofJson v) :: ofFields fs

end

end Value

end Landmarks.Yaml
