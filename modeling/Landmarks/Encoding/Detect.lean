import Landmarks.Encoding.Basic
import Landmarks.Str

/-!
# Telling the encoding of a text

* `Form` : the encodings that a JSON text may have.
* `Form.ofBytes` : the encoding of a JSON text. It starts with an ASCII character, so where its first
  zero bytes are tells the width of its units and their order.
* `decodeDetected?` : the text of bytes in the encoding that is told so.
-/

namespace Landmarks.Encoding

open Text (Point)
open Utf8 (Byte)

/-- Which byte of a unit comes first. -/
inductive Order
  | little
  | big
  deriving DecidableEq, Repr

/-- The encodings that a JSON text may have. -/
inductive Form
  | utf8
  | utf16 (order : Order)
  | utf32 (order : Order)
  deriving DecidableEq, Repr

/-- The encoding that the first bytes of a text tell. -/
def Form.ofBytes : List Byte → Form
  | [a, b] => if a == 0 then .utf16 .big else if b == 0 then .utf16 .little else .utf8
  | a :: b :: c :: d :: _ =>
    if a == 0 then if b == 0 then .utf32 .big else .utf16 .big
    else if b == 0 then if c == 0 && d == 0 then .utf32 .little else .utf16 .little
    else .utf8
  | _ => .utf8

/-- The number that the bytes of a unit give. -/
def Order.number (order : Order) (bs : List Byte) : Nat :=
  let bs := match order with
    | .little => bs.reverse
    | .big => bs
  bs.foldl (fun n b => 0x100 * n + b.toNat) 0

/-- The units of some bytes, `width` bytes each; none if bytes are left over. `fuel` bounds their
number. -/
def units? (width : Nat) (order : Order) : (fuel : Nat) → List Byte → Option (List Nat)
  | 0, bs => if bs.isEmpty then some [] else none
  | fuel + 1, bs =>
    if bs.isEmpty then some []
    else if bs.length < width then none
    else (units? width order fuel (bs.drop width)).map (order.number (bs.take width) :: ·)

/-- The points of units of 16 bits. -/
def ofUnits16 : List Nat → List Point
  | [] => []
  | [n] => [.ofCode n]
  | m :: n :: rest =>
    if Text.isHighUnit m && Text.isLowUnit n then .char (Text.ofPair m n) :: ofUnits16 rest
    else .ofCode m :: ofUnits16 (n :: rest)

/-- The points of units of 32 bits, which must be codes of points. -/
def ofUnits32? (units : List Nat) : Option (List Point) :=
  units.mapM fun n => if n < 0x110000 then some (.ofCode n) else none

/-- The text of some bytes in the encoding that they tell. A mark of UTF-8 does not belong to it, and
there may be no halves of pairs in it. -/
def decodeDetected? (bs : List Byte) : Option (List Char) :=
  if mark.isPrefixOf bs then (Utf8.decode (bs.drop 3)).toOption
  else
    match Form.ofBytes bs with
    | .utf8 => (Utf8.decode bs).toOption
    | .utf16 order => do Str.chars? ⟨ofUnits16 (← units? 2 order bs.length bs)⟩
    | .utf32 order => do Str.chars? ⟨← ofUnits32? (← units? 4 order bs.length bs)⟩

end Landmarks.Encoding
