import Landmarks.Encoding.Utf8

/-!
# Base64

* `Base64.decode?` : the bytes of a text in base 64. Characters outside the alphabet are passed over,
  and what follows complete padding is not read.
-/

namespace Landmarks.Base64

open Utf8 (Byte)

/-- The value of a character of the alphabet. -/
def value? (c : Char) : Option Nat :=
  let n := c.toNat
  if 0x41 ≤ n && n ≤ 0x5A then some (n - 0x41)
  else if 0x61 ≤ n && n ≤ 0x7A then some (n - 0x61 + 26)
  else if 0x30 ≤ n && n ≤ 0x39 then some (n - 0x30 + 52)
  else if c == '+' then some 62
  else if c == '/' then some 63
  else none

/-- The bytes from here on. `place` is the number of characters in the current group of four, `bits`
what is left of them, and `pads` the padding read since the last one. -/
def go (place bits pads : Nat) : List Char → Option (List Byte)
  | [] => if place == 0 then some [] else none
  | c :: cs =>
    if c == '=' then
      if 2 ≤ place then if 4 ≤ place + pads + 1 then some [] else go place bits (pads + 1) cs
      else go place bits pads cs
    else
      match value? c with
      | none => go place bits pads cs
      | some v =>
        match place with
        | 0 => go 1 v 0 cs
        | 1 => (go 2 (v % 16) 0 cs).map ((bits * 4 + v / 16).toUInt8 :: ·)
        | 2 => (go 3 (v % 4) 0 cs).map ((bits * 16 + v / 4).toUInt8 :: ·)
        | _ => (go 0 0 0 cs).map ((bits * 64 + v).toUInt8 :: ·)

/-- The bytes of a text, if its last group is complete. -/
def decode? (cs : List Char) : Option (List Byte) := go 0 0 0 cs

end Landmarks.Base64
