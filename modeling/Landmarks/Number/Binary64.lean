/-!
# Binary floating point

Numbers of 53 binary digits, as data: no machine arithmetic is involved.

* `Binary64` : not a number, an infinity, or `± significand * 2 ^ exponent`.
* `Binary64.ofRatio` : the nearest number to a quotient, ties to the even significand.
* `Binary64.ofDecimal` : the nearest number to `digits * 10 ^ exponent`.
* `Binary64.toInt?` : the integer a number is equal to.
* `Binary64.add`, `Binary64.mul` : the nearest numbers to a sum and to a product.
-/

namespace Landmarks

/-- A binary floating-point number. A finite one is canonical when its significand has 53 binary
digits, or fewer and the least exponent. -/
inductive Binary64
  | nan
  | infinite (negative : Bool)
  | finite (negative : Bool) (significand : Nat) (exponent : Int)
  deriving DecidableEq, Repr

namespace Binary64

/-- The least exponent of a finite number. -/
def minExponent : Int := -1074

/-- The greatest exponent of a finite number. -/
def maxExponent : Int := 971

/-- The zero of a sign. -/
def zero (negative : Bool) : Binary64 := .finite negative 0 minExponent

/-- `a / b` to the nearest integer, a tie to the even one. -/
def roundDiv (a b : Nat) : Nat :=
  let q := a / b
  let r := a % b
  if 2 * r < b || (2 * r == b && q % 2 == 0) then q else q + 1

/-- `num / den` divided by `2 ^ e`, again as a quotient. -/
def scale (num den : Nat) (e : Int) : Nat × Nat :=
  if 0 ≤ e then (num, den * Nat.pow 2 e.toNat) else (num * Nat.pow 2 (-e).toNat, den)

/-- The number nearest to `± num / den`. -/
def ofRatio (negative : Bool) (num den : Nat) : Binary64 :=
  if num == 0 then zero negative
  else
    let guess : Int := (Nat.log2 num : Int) - (Nat.log2 den : Int) - 52
    let (a, b) := scale num den guess
    let e := max (if a / b < Nat.pow 2 52 then guess - 1 else guess) minExponent
    let (a, b) := scale num den e
    let m := roundDiv a b
    let (m, e) := if m == Nat.pow 2 53 then (Nat.pow 2 52, e + 1) else (m, e)
    if e > maxExponent then .infinite negative else .finite negative m e

/-- The number nearest to `± digits * 10 ^ exponent`. Values beyond the range of finite numbers are
decided by their order of magnitude. -/
def ofDecimal (negative : Bool) (digits : Nat) (exponent : Int) : Binary64 :=
  let order : Int := ((Nat.toDigits 10 digits).length : Int) + exponent
  if digits == 0 then zero negative
  else if order > 310 then .infinite negative
  else if order < -330 then zero negative
  else if 0 ≤ exponent then ofRatio negative (digits * Nat.pow 10 exponent.toNat) 1
  else ofRatio negative digits (Nat.pow 10 (-exponent).toNat)

/-- The number nearest to an integer. -/
def ofInt (i : Int) : Binary64 := ofRatio (i < 0) i.natAbs 1

/-- Numerator and denominator of `significand * 2 ^ exponent`. -/
def ratio (significand : Nat) (exponent : Int) : Nat × Nat :=
  if 0 ≤ exponent then (significand * Nat.pow 2 exponent.toNat, 1)
  else (significand, Nat.pow 2 (-exponent).toNat)

/-- The integer that a number is equal to, if any. -/
def toInt? : Binary64 → Option Int
  | finite negative m e =>
    let (num, den) := ratio m e
    if num % den == 0 then
      let i : Int := ((num / den : Nat) : Int)
      some (if negative then -i else i)
    else none
  | _ => none

/-- The number of opposite sign. -/
def neg : Binary64 → Binary64
  | nan => nan
  | infinite negative => infinite !negative
  | finite negative m e => finite (!negative) m e

/-- Numeric equality: the two zeros are equal, and nothing is equal to what is not a number. -/
def sameValue : Binary64 → Binary64 → Bool
  | infinite a, infinite b => a == b
  | finite a m e, finite b n f =>
    let (p, q) := ratio m e
    let (r, s) := ratio n f
    p * s == r * q && (a == b || p == 0)
  | _, _ => false

/-- The rounded sum. Opposite infinities have none, and a sum of zero is positive unless both numbers
are negative. -/
def add : Binary64 → Binary64 → Binary64
  | nan, _ => nan
  | _, nan => nan
  | infinite a, infinite b => if a == b then infinite a else nan
  | infinite a, finite _ _ _ => infinite a
  | finite _ _ _, infinite b => infinite b
  | finite a m e, finite b n f =>
    let (p, q) := ratio m e
    let (r, s) := ratio n f
    let side (negative : Bool) (k : Nat) : Int := if negative then -(k : Int) else k
    let sum := side a (p * s) + side b (r * q)
    if sum == 0 then zero (a && b) else ofRatio (sum < 0) sum.natAbs (q * s)

/-- The rounded product. An infinity times zero has none. -/
def mul : Binary64 → Binary64 → Binary64
  | nan, _ => nan
  | _, nan => nan
  | infinite a, infinite b => infinite (a != b)
  | infinite a, finite b n _ => if n == 0 then nan else infinite (a != b)
  | finite a m _, infinite b => if m == 0 then nan else infinite (a != b)
  | finite a m e, finite b n f =>
    let (p, q) := ratio m e
    let (r, s) := ratio n f
    ofRatio (a != b) (p * r) (q * s)

/-- Whether a number is neither infinite nor not a number. -/
def isFinite : Binary64 → Bool
  | finite _ _ _ => true
  | _ => false

end Binary64

end Landmarks
