import Landmarks.Text.Blank

/-!
# Reading integers

* `decimalValue?` : the value of a decimal digit of any script.
* `numeral` : the text of a number in ASCII, without white space around it.
* `readInteger` : the integer that a text denotes in a base: an optional sign, an optional mark of the
  base, and digits with single underscores between them.
* `maxDigits` : numerals are not converted beyond this length, in either direction.
-/

namespace Landmarks.Number

open Text

/-- The zeros of the decimal digits beyond ASCII (Unicode 14); the other nine follow each. -/
def digitZeros : List Nat :=
  [0x660, 0x6F0, 0x7C0, 0x966, 0x9E6, 0xA66, 0xAE6, 0xB66, 0xBE6, 0xC66, 0xCE6, 0xD66, 0xDE6, 0xE50,
   0xED0, 0xF20, 0x1040, 0x1090, 0x17E0, 0x1810, 0x1946, 0x19D0, 0x1A80, 0x1A90, 0x1B50, 0x1BB0,
   0x1C40, 0x1C50, 0xA620, 0xA8D0, 0xA900, 0xA9D0, 0xA9F0, 0xAA50, 0xABF0, 0xFF10, 0x104A0, 0x10D30,
   0x11066, 0x110F0, 0x11136, 0x111D0, 0x112F0, 0x11450, 0x114D0, 0x11650, 0x116C0, 0x11730, 0x118E0,
   0x11950, 0x11C50, 0x11D50, 0x11DA0, 0x16A60, 0x16AC0, 0x16B50, 0x1D7CE, 0x1D7D8, 0x1D7E2, 0x1D7EC,
   0x1D7F6, 0x1E140, 0x1E2F0, 0x1E950, 0x1FBF0]

/-- The value of a decimal digit of any script. -/
def decimalValue? (c : Char) : Option Nat :=
  let n := c.toNat
  if 0x30 ≤ n && n ≤ 0x39 then some (n - 0x30)
  else (digitZeros.find? fun z => z ≤ n && n ≤ z + 9).map (n - ·)

/-! ## Numerals -/

/-- A character as it counts in a number. Beyond ASCII, white space counts as a space and a decimal
digit as the digit of its value; a question mark stands for all else, and is part of no number. -/
def asciiForm (c : Char) : Char :=
  if c.toNat < 0x7F then c
  else if isBlank c then ' '
  else
    match decimalValue? c with
    | some d => Char.ofNat (0x30 + d)
    | none => '?'

/-- The white space that may stand around a number: tab to carriage return, and the space. -/
def isMargin (c : Char) : Bool := c == ' ' || (0x09 ≤ c.toNat && c.toNat ≤ 0x0D)

/-- The text of a number, without white space around it. -/
def numeral (cs : List Char) : List Char := strip isMargin (cs.map asciiForm)

/-- The sign at the front of a text, negative or not, and the rest. -/
def splitSign : List Char → Bool × List Char
  | '-' :: cs => (true, cs)
  | '+' :: cs => (false, cs)
  | cs => (false, cs)

/-- An integer from its sign and its size. -/
def withSign (negative : Bool) (n : Nat) : Int := if negative then -(n : Int) else n

/-! ## Integers -/

/-- The most decimal digits that an integer is read from or written with. -/
def maxDigits : Nat := 4300

/-- What is said of a numeral that is too long to be read. -/
def longNumeralText (digits : Nat) : String :=
  "Exceeds the limit (" ++ toString maxDigits ++ " digits) for integer string conversion: value has " ++
    toString digits ++ " digits; use sys.set_int_max_str_digits() to increase the limit"

/-- What is said of an integer that is too long to be written. -/
def longIntegerText : String :=
  "Exceeds the limit (" ++ toString maxDigits ++ " digits) for integer string conversion; " ++
    "use sys.set_int_max_str_digits() to increase the limit"

/-- Whether an integer is short enough to be written. -/
def isWritable (i : Int) : Bool := i.natAbs < Nat.pow 10 maxDigits

/-- Why a text denotes no integer. -/
inductive IntegerError
  | malformed
  | tooLong (digits : Nat)
  deriving DecidableEq, Repr

/-- The value of an ASCII digit of a base up to sixteen. -/
def digitValue? (base : Nat) (c : Char) : Option Nat :=
  let n := c.toNat
  let value :=
    if 0x30 ≤ n && n ≤ 0x39 then some (n - 0x30)
    else if 0x41 ≤ n && n ≤ 0x46 then some (n - 0x37)
    else if 0x61 ≤ n && n ≤ 0x66 then some (n - 0x57)
    else none
  value.filter (· < base)

/-- The letter that marks a base whose digits are groups of bits. -/
def baseLetter? (base : Nat) : Option Char :=
  if base == 2 then some 'b' else if base == 8 then some 'o' else if base == 16 then some 'x' else none

/-- Without the mark of a base: a zero, the letter of the base in either case, and an underscore if
there is one. -/
def dropMark (base : Nat) (cs : List Char) : List Char :=
  match cs with
  | '0' :: letter :: rest =>
    if baseLetter? base == some letter.toLower then if rest.head? == some '_' then rest.drop 1 else rest
    else cs
  | _ => cs

/-- Whether a run of digits and underscores has its underscores one by one between digits; a digit
must come next when `due`. -/
def isGrouped (due : Bool) : List Char → Bool
  | [] => !due
  | c :: cs => if c == '_' then !due && isGrouped true cs else isGrouped false cs

/-- The integer that a text denotes in a base. The length of a numeral counts only in a base whose
digits are no groups of bits; it is judged before what follows the digits. -/
def readInteger (base : Nat) (cs : List Char) : Except IntegerError Int :=
  let (negative, body) := splitSign (numeral cs)
  let ds := dropMark base body
  let run := ds.takeWhile fun c => c == '_' || (digitValue? base c).isSome
  let values := run.filterMap (digitValue? base)
  if !isGrouped true run then .error .malformed
  else if (baseLetter? base).isNone && maxDigits < values.length then .error (.tooLong values.length)
  else if run.length < ds.length then .error .malformed
  else .ok (withSign negative (values.foldl (fun n d => n * base + d) 0))

end Landmarks.Number
