import Landmarks.Named
import Landmarks.Number.Binary64
import Landmarks.Str

/-!
# JSON values

* `Json` : values, with whole numbers apart from floating-point ones and the fields of an object in
  the order in which they were first given.
* `Json.get?` : the value of a field.
* `Json.isFinite` : whether all numbers in a value are finite, so that it has a standard form.
* `Json.isText` : whether no string in a value has halves of pairs, so that it can be encoded.
-/

namespace Landmarks

/-- A JSON value. -/
inductive Json
  | null
  | bool (value : Bool)
  | int (value : Int)
  | float (value : Binary64)
  | str (value : Str)
  | arr (items : List Json)
  | obj (fields : List (Str × Json))
  deriving Repr, BEq

namespace Json

/-- The fields of an object. -/
abbrev Fields := Named Json Str

/-- The value of a field of an object; nothing for other values. -/
def get? (j : Json) (key : Str) : Option Json :=
  match j with
  | obj fields => Named.find? fields key
  | _ => none

mutual

/-- Whether all numbers in a value are finite. -/
def isFinite : Json → Bool
  | float x => x.isFinite
  | arr xs => areFinite xs
  | obj fs => areFiniteFields fs
  | _ => true

/-- Whether all numbers in some values are finite. -/
def areFinite : List Json → Bool
  | [] => true
  | x :: xs => isFinite x && areFinite xs

/-- Whether all numbers in some fields are finite. -/
def areFiniteFields : List (Str × Json) → Bool
  | [] => true
  | (_, v) :: fs => isFinite v && areFiniteFields fs

end

mutual

/-- Whether all strings in a value are without halves of pairs, the names of fields too. -/
def isText : Json → Bool
  | str s => s.text?.isSome
  | arr xs => areText xs
  | obj fs => areTextFields fs
  | _ => true

/-- Whether all strings in some values are without halves of pairs. -/
def areText : List Json → Bool
  | [] => true
  | x :: xs => isText x && areText xs

/-- Whether all strings in some fields are without halves of pairs. -/
def areTextFields : List (Str × Json) → Bool
  | [] => true
  | (k, v) :: fs => k.text?.isSome && isText v && areTextFields fs

end

end Json

end Landmarks
