import Landmarks.Json.Basic
import Landmarks.Number.Decimal

/-!
# Reading JSON

* `Json.parse` : the value a text denotes, or its first fault. Besides the standard form, `NaN`,
  `Infinity` and `-Infinity` are numbers; of a repeated field the last value counts.
* `Json.value` : a value at the front of a text, with what follows it.
-/

namespace Landmarks.Json

open Number (isDigit digitsValue withSign)

/-- The white space between tokens. -/
def isGap (c : Char) : Bool := c == ' ' || c == '\t' || c == '\n' || c == '\r'

/-- Without leading white space. -/
def skipGap (cs : List Char) : List Char := cs.dropWhile isGap

/-- What is wrong with a text: it has not the form of a value, or it has an integer with too many
digits. -/
inductive Fault
  | malformed
  | longInteger (digits : Nat)
  deriving DecidableEq, Repr

/-- The character of a one-letter escape. -/
def escapeChar? : Char → Option Char
  | '"' => some '"'
  | '\\' => some '\\'
  | '/' => some '/'
  | 'b' => some '\x08'
  | 'f' => some '\x0c'
  | 'n' => some '\n'
  | 'r' => some '\r'
  | 't' => some '\t'
  | _ => none

/-- The rest of a string behind its opening quote; `acc` is what was read, last point first. -/
def stringBody : (fuel : Nat) → (acc : List Text.Point) → List Char → Option (Str × List Char)
  | 0, _, _ => none
  | _ + 1, _, [] => none
  | fuel + 1, acc, c :: cs =>
    if c == '"' then some (⟨acc.reverse⟩, cs)
    else if c == '\\' then
      match cs with
      | 'u' :: a :: b :: d :: e :: rest =>
        match Text.hexNumber? [a, b, d, e] with
        | some unit =>
          let (p, rest) := Text.ofEscapes unit rest
          stringBody fuel (p :: acc) rest
        | none => none
      | e :: rest =>
        match escapeChar? e with
        | some ch => stringBody fuel (.char ch :: acc) rest
        | none => none
      | [] => none
    else if c.toNat < 0x20 then none
    else stringBody fuel (.char c :: acc) cs

/-- A string at the front of a text. -/
def string (cs : List Char) : Option (Str × List Char) :=
  match cs with
  | '"' :: rest => stringBody (rest.length + 1) [] rest
  | _ => none

/-- The digits behind a decimal point, if there are any. -/
def fraction (cs : List Char) : Option (List Char) × List Char :=
  match cs with
  | '.' :: rest =>
    let ds := rest.takeWhile isDigit
    if ds.isEmpty then (none, cs) else (some ds, rest.dropWhile isDigit)
  | _ => (none, cs)

/-- An exponent part, if there is one. -/
def exponent (cs : List Char) : Option Int × List Char :=
  match cs with
  | e :: rest =>
    if e == 'e' || e == 'E' then
      let (negative, rest) := Number.splitSign rest
      let ds := rest.takeWhile isDigit
      if ds.isEmpty then (none, cs)
      else (some (withSign negative (digitsValue ds)), rest.dropWhile isDigit)
    else (none, cs)
  | [] => (none, cs)

/-- The whole part of a number: one zero, or digits that do not start with a zero. -/
def whole (cs : List Char) : Option (List Char × List Char) :=
  match cs with
  | '0' :: rest => some (['0'], rest)
  | c :: _ => if isDigit c then some (cs.takeWhile isDigit, cs.dropWhile isDigit) else none
  | [] => none

/-- A number at the front of a text, its sign read before. -/
def number (negative : Bool) (cs : List Char) : Except Fault (Json × List Char) :=
  match whole cs with
  | none => .error .malformed
  | some (ds, rest) =>
    match fraction rest with
    | (frac, rest) =>
      match exponent rest with
      | (expo, rest) =>
        if frac.isNone && expo.isNone then
          if Number.maxDigits < ds.length then .error (.longInteger ds.length)
          else .ok (int (withSign negative (digitsValue ds)), rest)
        else
          let fs := frac.getD []
          let n := digitsValue (ds ++ fs)
          .ok (float (Binary64.ofDecimal negative n (expo.getD 0 - fs.length)), rest)

/-- A word at the front of a text, for the value it stands for. -/
def keyword (w : List Char) (v : Json) (cs : List Char) : Except Fault (Json × List Char) :=
  if w.isPrefixOf cs then .ok (v, cs.drop w.length) else .error .malformed

/-- A value that is no array and no object. -/
def scalar (cs : List Char) : Except Fault (Json × List Char) :=
  match cs with
  | '"' :: _ =>
    match string cs with
    | some (s, rest) => .ok (str s, rest)
    | none => .error .malformed
  | 'n' :: _ => keyword "null".toList null cs
  | 't' :: _ => keyword "true".toList (bool true) cs
  | 'f' :: _ => keyword "false".toList (bool false) cs
  | 'N' :: _ => keyword "NaN".toList (float .nan) cs
  | 'I' :: _ => keyword "Infinity".toList (float (.infinite false)) cs
  | '-' :: 'I' :: _ => keyword "-Infinity".toList (float (.infinite true)) cs
  | '-' :: rest => number true rest
  | _ => number false cs

mutual

/-- A value at the front of a text, and what follows it. -/
def value : (fuel : Nat) → List Char → Except Fault (Json × List Char)
  | 0, _ => .error .malformed
  | fuel + 1, cs =>
    match cs with
    | '[' :: rest =>
      match skipGap rest with
      | ']' :: rest => .ok (arr [], rest)
      | rest => items fuel [] rest
    | '{' :: rest =>
      match skipGap rest with
      | '}' :: rest => .ok (obj [], rest)
      | rest => members fuel [] rest
    | _ => scalar cs

/-- The items of an array from one item on; `acc` is what was read, last item first. -/
def items : (fuel : Nat) → (acc : List Json) → List Char → Except Fault (Json × List Char)
  | 0, _, _ => .error .malformed
  | fuel + 1, acc, cs =>
    match value fuel cs with
    | .error e => .error e
    | .ok (v, rest) =>
      match skipGap rest with
      | ']' :: rest => .ok (arr (v :: acc).reverse, rest)
      | ',' :: rest => items fuel (v :: acc) (skipGap rest)
      | _ => .error .malformed

/-- The fields of an object from one name on. -/
def members : (fuel : Nat) → (acc : Fields) → List Char → Except Fault (Json × List Char)
  | 0, _, _ => .error .malformed
  | fuel + 1, acc, cs =>
    match string cs with
    | none => .error .malformed
    | some (key, rest) =>
      match skipGap rest with
      | ':' :: rest =>
        match value fuel (skipGap rest) with
        | .error e => .error e
        | .ok (v, rest) =>
          match skipGap rest with
          | '}' :: rest => .ok (obj (Named.put key v acc), rest)
          | ',' :: rest => members fuel (Named.put key v acc) (skipGap rest)
          | _ => .error .malformed
      | _ => .error .malformed

end

/-- The value that a text denotes, with white space around it and nothing else. -/
def parse (cs : List Char) : Except Fault Json :=
  match value (2 * cs.length + 2) (skipGap cs) with
  | .ok (v, rest) => if (skipGap rest).isEmpty then .ok v else .error .malformed
  | .error e => .error e

end Landmarks.Json
