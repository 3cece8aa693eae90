import Landmarks.Encoding.Utf8
import Landmarks.Text.Units

/-!
# Text encodings

* `Encoding` : the encodings in which a file can be read.
* `Encoding.decode` : the text of any bytes; what cannot be read is replaced.
-/

namespace Landmarks

/-- An encoding of text in bytes. -/
inductive Encoding
  | utf8
  | utf8Marked
  | latin1
  | ascii
  | utf16le
  deriving DecidableEq, Repr

namespace Encoding

open Utf8 (Byte replacement)

/-- The bytes that mark UTF-8. -/
def mark : List Byte := [0xEF, 0xBB, 0xBF]

/-- Without the mark of UTF-8; bytes that are only a part of the mark hold no text. -/
def dropMark (bs : List Byte) : List Byte :=
  if mark.isPrefixOf bs then bs.drop 3 else if bs.isPrefixOf mark then [] else bs

/-- Little-endian code units and pairs of them. A unit of a pair that stands alone is replaced, and so
is what is left at the end. -/
def decodeUnits : List Byte → List Char
  | [] => []
  | [_] => [replacement]
  | a :: b :: rest =>
    let unit := a.toNat + 0x100 * b.toNat
    if !Text.isHighUnit unit then (Text.Point.ofCode unit).char?.getD replacement :: decodeUnits rest
    else
      match rest with
      | c :: d :: rest' =>
        let second := c.toNat + 0x100 * d.toNat
        if Text.isLowUnit second then Text.ofPair unit second :: decodeUnits rest'
        else replacement :: decodeUnits (c :: d :: rest')
      | _ => [replacement]

/-- The text of any bytes. -/
def decode : Encoding → List Byte → List Char
  | utf8, bs => Utf8.decodeLossy bs
  | utf8Marked, bs => Utf8.decodeLossy (dropMark bs)
  | latin1, bs => bs.map fun b => Char.ofNat b.toNat
  | ascii, bs => bs.map fun b => if b < 0x80 then Char.ofNat b.toNat else replacement
  | utf16le, bs => decodeUnits bs

end Encoding

end Landmarks
