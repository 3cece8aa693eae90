import Landmarks.Text.Span

/-!
# Code units

A character beyond the basic plane is written as a pair of units of 16 bits. One unit of a pair may
also come without the other.

* `ofPair` : the character of a pair.
* `Point` : a character, or half a pair.
* `ofEscapes` : the point of an escaped unit, with its partner if that follows.
-/

namespace Landmarks.Text

/-- Whether a code unit is the first of a pair. -/
def isHighUnit (n : Nat) : Bool := 0xD800 ≤ n && n ≤ 0xDBFF

/-- Whether a code unit is the second of a pair. -/
def isLowUnit (n : Nat) : Bool := 0xDC00 ≤ n && n ≤ 0xDFFF

/-- The character of a pair of code units. -/
def ofPair (high low : Nat) : Char :=
  Char.ofNat (0x10000 + (high - 0xD800) * 0x400 + (low - 0xDC00))

/-- A character, or half a pair; halves are counted from the least unit that is one. -/
inductive Point
  | char (c : Char)
  | half (n : Fin 0x800)
  deriving DecidableEq, Repr

namespace Point

/-- The code of a point. -/
def code : Point → Nat
  | char c => c.toNat
  | half n => 0xD800 + n

/-- The point with a code. -/
def ofCode (n : Nat) : Point :=
  if h : 0xD800 ≤ n ∧ n < 0xE000 then half ⟨n - 0xD800, by omega⟩ else char (Char.ofNat n)

/-- The character of a point that is one. -/
def char? : Point → Option Char
  | char c => some c
  | half _ => none

end Point

/-- An escaped unit at the front of a text, and what follows it. -/
def escapedUnit? : List Char → Option (Nat × List Char)
  | '\\' :: 'u' :: a :: b :: c :: d :: rest => (hexNumber? [a, b, c, d]).map fun n => (n, rest)
  | _ => none

/-- The point of an escaped unit, and what follows it: the second unit of a pair is taken from `rest`
if it is escaped there. -/
def ofEscapes (unit : Nat) (rest : List Char) : Point × List Char :=
  match escapedUnit? rest with
  | some (second, rest') =>
    if isHighUnit unit && isLowUnit second then (.char (ofPair unit second), rest')
    else (.ofCode unit, rest)
  | none => (.ofCode unit, rest)

end Landmarks.Text
