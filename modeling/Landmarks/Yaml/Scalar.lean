import Landmarks.Encoding.Base64
import Landmarks.Number.Decimal
import Landmarks.Text.Case
import Landmarks.Yaml.Tag
import Landmarks.Yaml.Value

/-!
# The values of scalars

* `readInt`, `readFloat` : the numbers that scalars denote, also in base sixty.
* `Value.ofScalar` : the value of a scalar of a type.
-/

namespace Landmarks.Yaml

open Number Text

/-- The truth values by word, in lower case. -/
def boolOf? (cs : List Char) : Option Bool :=
  if ["yes", "true", "on"].any (·.toList == cs) then some true
  else if ["no", "false", "off"].any (·.toList == cs) then some false
  else none

/-- A number without its underscores. -/
def dropBars (cs : List Char) : List Char := cs.filter (· != '_')

/-! ## Integers -/

/-- An integer in a base, or an error. -/
def readBase (base : Nat) (cs : List Char) : Except Error Int :=
  match readInteger base cs with
  | .ok i => .ok i
  | .error .malformed => .error (.badInteger base cs)
  | .error (.tooLong digits) => .error (.longNumeral digits)

/-- A number in base sixty from its places, most significant first. -/
def inSixties (places : List Int) : Int := places.foldl (fun n d => 60 * n + d) 0

/-- The integer that a scalar without a sign denotes: its first characters tell the base. -/
def readUnsigned (ds : List Char) : Except Error Int :=
  match ds with
  | [] => .error .emptyNumber
  | ['0'] => .ok 0
  | '0' :: 'b' :: bits => readBase 2 bits
  | '0' :: 'x' :: digits => readBase 16 digits
  | '0' :: _ => readBase 8 ds
  | _ =>
    if ds.contains ':' then do return inSixties (← (ds.splitOn ':').mapM (readBase 10))
    else readBase 10 ds

/-- The integer that a scalar denotes. -/
def readInt (cs : List Char) : Except Error Int := do
  let (negative, ds) := splitSign (dropBars cs)
  let n ← readUnsigned ds
  return if negative then -n else n

/-! ## Floating-point numbers -/

/-- The floating-point number that a decimal denotes. -/
def readDecimal (cs : List Char) : Except Error Binary64 :=
  match readDecimal? cs with
  | some x => .ok x
  | none => .error (.badFloat cs)

/-- A sum in base sixty from its places, least significant first, rounded at every step. The weight of
each place must be a finite number. -/
def sumSixties (total : Binary64) (weight : Nat) : List Binary64 → Except Error Binary64
  | [] => .ok total
  | d :: ds =>
    let w := Binary64.ofInt weight
    if w.isFinite then sumSixties (total.add (d.mul w)) (60 * weight) ds else .error .overflow

/-- The sign of a floating-point scalar and the rest of it, in lower case and without underscores. -/
def floatParts (cs : List Char) : Bool × List Char := splitSign (lower (dropBars cs))

/-- Whether a floating-point scalar is the word for what is not a number. -/
def isNanWord (cs : List Char) : Bool := (floatParts cs).2 == ".nan".toList

/-- The floating-point number that a scalar denotes. -/
def readFloat (cs : List Char) : Except Error Binary64 := do
  let (negative, ds) := floatParts cs
  let withSign (x : Binary64) : Binary64 := if negative then x.neg else x
  if (dropBars cs).isEmpty then .error .emptyNumber
  else if ds == ".inf".toList then return .infinite negative
  else if isNanWord cs then return .nan
  else if ds.contains ':' then
    let places ← (ds.splitOn ':').mapM readDecimal
    return withSign (← sumSixties (.zero false) 1 places.reverse)
  else return withSign (← readDecimal ds)

/-! ## All types -/

/-- The value of a scalar of a type. Only a string keeps halves of pairs; in no other type they have a
meaning. -/
def Value.ofScalar (tag : Tag) (text : Str) : Except Error Value :=
  let cs := text.toChars
  match tag with
  | .null => .ok .null
  | .bool =>
    match boolOf? (lower cs) with
    | some b => .ok (.bool b)
    | none => .error (.badBool (lower cs))
  | .int => do return .int (← readInt cs)
  | .float => do return .float (← readFloat cs)
  | .str => .ok (.str text)
  | .binary =>
    if cs.any (·.toNat ≥ 0x80) then .error .malformed
    else
      match Base64.decode? cs with
      | some bs => .ok (.bytes bs)
      | none => .error .malformed
  | .timestamp =>
    match Stamp.read? cs with
    | some s => do
      match ← s.check with
      | .inl d => return .date d
      | .inr m => return .moment m
    | none => .error .noTimestamp
  | _ => .error .malformed

end Landmarks.Yaml
