import Landmarks.Number.Binary64
import Landmarks.Number.Integer

/-!
# Reading decimal fractions

* `readDecimal?` : the floating-point number nearest to a decimal, or one that is named by a word.
-/

namespace Landmarks.Number

/-- An ASCII digit. -/
def isDigit (c : Char) : Bool := '0' ≤ c && c ≤ '9'

/-- The number that decimal digits write, most significant first. -/
def digitsValue (ds : List Char) : Nat := ds.foldl (fun n d => 10 * n + (d.toNat - 0x30)) 0

/-- The value of an exponent part up to the end of a text; without one it is zero. -/
def exponent? : List Char → Option Int
  | [] => some 0
  | e :: cs =>
    let (negative, ds) := splitSign cs
    if e.toLower == 'e' && !ds.isEmpty && ds.all isDigit then some (withSign negative (digitsValue ds))
    else none

/-- A decimal without its sign: digits with a point among or beside them, and an exponent part. -/
def unsigned? (negative : Bool) (cs : List Char) : Option Binary64 :=
  let whole := cs.takeWhile isDigit
  let rest := cs.dropWhile isDigit
  let (frac, rest) :=
    match rest with
    | '.' :: rest => (rest.takeWhile isDigit, rest.dropWhile isDigit)
    | _ => ([], rest)
  if whole.isEmpty && frac.isEmpty then none
  else
    (exponent? rest).map fun e =>
      Binary64.ofDecimal negative (digitsValue (whole ++ frac)) (e - frac.length)

/-- The number that a text denotes: a decimal, an infinity, or what is not a number. -/
def readDecimal? (cs : List Char) : Option Binary64 :=
  let (negative, ds) := splitSign (numeral cs)
  let word := ds.map Char.toLower
  if word == "inf".toList || word == "infinity".toList then some (.infinite negative)
  else if word == "nan".toList then some .nan
  else unsigned? negative ds

end Landmarks.Number
