import Landmarks.Text.Span

/-!
# UTF-8

* `Utf8.encode` : the bytes of a text.
* `Utf8.decode` : the text of some bytes, or the first place where they are no UTF-8.
* `Utf8.decodeLossy` : the text of any bytes. Each longest beginning of a character that goes wrong
  becomes one replacement character.
-/

namespace Landmarks.Utf8

/-- A byte as a number. -/
abbrev Byte := UInt8

/-- The bytes of a character. -/
def encodeChar (c : Char) : List Byte :=
  let n := c.toNat
  let tail (shift : Nat) : Byte := (0x80 + n / shift % 0x40).toUInt8
  if n < 0x80 then [n.toUInt8]
  else if n < 0x800 then [(0xC0 + n / 0x40).toUInt8, tail 1]
  else if n < 0x10000 then [(0xE0 + n / 0x1000).toUInt8, tail 0x40, tail 1]
  else [(0xF0 + n / 0x40000).toUInt8, tail 0x1000, tail 0x40, tail 1]

/-- The bytes of a text. -/
def encode (cs : List Char) : List Byte := cs.flatMap encodeChar

/-- Why bytes are no character. -/
inductive Fault
  | start
  | continuation
  | truncated
  deriving DecidableEq, Repr

/-- The reason in words. -/
def Fault.reason : Fault → String
  | .start => "invalid start byte"
  | .continuation => "invalid continuation byte"
  | .truncated => "unexpected end of data"

/-- Where bytes are no UTF-8: the place and the bytes that go wrong together. -/
structure Error where
  position : Nat
  bytes : List Byte
  fault : Fault
  deriving DecidableEq, Repr

/-- What is said of bytes that are no UTF-8. -/
def Error.message (e : Error) : String :=
  let place :=
    match e.bytes with
    | [b] =>
      "byte 0x" ++ String.ofList (Text.hexDigits 2 b.toNat) ++ " in position " ++ toString e.position
    | bs =>
      "bytes in position " ++ toString e.position ++ "-" ++ toString (e.position + bs.length - 1)
  "\x27utf-8\x27 codec can\x27t decode " ++ place ++ ": " ++ e.fault.reason

/-- What is known from a first byte: how many bytes must follow, the range of the next one, and the
bits it gives. None if no character starts so. -/
def lead? (b : Byte) : Option (Nat × Byte × Byte × Nat) :=
  if b < 0x80 then some (0, 0x80, 0xBF, b.toNat)
  else if b < 0xC2 then none
  else if b < 0xE0 then some (1, 0x80, 0xBF, b.toNat - 0xC0)
  else if b == 0xE0 then some (2, 0xA0, 0xBF, 0)
  else if b == 0xED then some (2, 0x80, 0x9F, 0xD)
  else if b < 0xF0 then some (2, 0x80, 0xBF, b.toNat - 0xE0)
  else if b == 0xF0 then some (3, 0x90, 0xBF, 0)
  else if b < 0xF4 then some (3, 0x80, 0xBF, b.toNat - 0xF0)
  else if b == 0xF4 then some (3, 0x80, 0x8F, 4)
  else none

/-- The bytes that follow a first byte: the code point, or what is wrong, and how many were good. -/
def follow (need : Nat) (low high : Byte) (acc used : Nat) (bs : List Byte) : Except Fault Nat × Nat :=
  match need, bs with
  | 0, _ => (.ok acc, used)
  | _ + 1, [] => (.error .truncated, used)
  | need + 1, b :: rest =>
    if low ≤ b && b ≤ high then follow need 0x80 0xBF (acc * 0x40 + (b.toNat - 0x80)) (used + 1) rest
    else (.error .continuation, used)

/-- The first character of some bytes, or what is wrong; and how many further bytes belong to it. -/
def first (b : Byte) (rest : List Byte) : Except Fault Char × Nat :=
  match lead? b with
  | none => (.error .start, 0)
  | some (need, low, high, bits) =>
    match follow need low high bits 0 rest with
    | (.ok n, used) => (.ok (Char.ofNat n), used)
    | (.error fault, used) => (.error fault, used)

/-- The characters of some bytes, each with its place; `skip` bytes belong to the one before. -/
def units (position skip : Nat) : List Byte → List (Except Error Char)
  | [] => []
  | b :: rest =>
    match skip with
    | skip + 1 => units (position + 1) skip rest
    | 0 =>
      match first b rest with
      | (.ok c, used) => .ok c :: units (position + 1) used rest
      | (.error fault, used) =>
        .error ⟨position, b :: rest.take used, fault⟩ :: units (position + 1) used rest

/-- The text of some bytes, or the first error. -/
def decode (bs : List Byte) : Except Error (List Char) := (units 0 0 bs).mapM id

/-- The character that stands for what cannot be read. -/
def replacement : Char := Char.ofNat 0xFFFD

/-- The text of any bytes. -/
def decodeLossy (bs : List Byte) : List Char :=
  (units 0 0 bs).map fun
    | .ok c => c
    | .error _ => replacement

end Landmarks.Utf8
