import Landmarks.Number.Binary64

/-!
# Shortest decimal form

* `Binary64.shortest` : the fewest decimal digits that read back as the number, and of those the
  nearest to it.
* `Spelling` : the words of a format for what has no digits.
* `Binary64.text` : the written form, positional for exponents from `-4` to `15`.
-/

namespace Landmarks

namespace Binary64

/-- `c * 10 ^ s` compared with `a / b`. -/
def compareDecimal (c : Nat) (s : Int) (a b : Nat) : Ordering :=
  if 0 ≤ s then compare (c * Nat.pow 10 s.toNat * b) a else compare (c * b) (a * Nat.pow 10 (-s).toNat)

/-- The exponent of the leading decimal digit of `a / b`, from a guess that is off by at most one. -/
def decimalOrder (a b : Nat) (guess : Int) : Int :=
  if compareDecimal 1 guess a b == .gt then guess - 1
  else if compareDecimal 1 (guess + 1) a b == .gt then guess
  else guess + 1

/-- The part of `a / b` above the decimal place `s`, as a whole number of units `10 ^ s`. -/
def unitsAbove (a b : Nat) (s : Int) : Nat :=
  if 0 ≤ s then a / (b * Nat.pow 10 s.toNat) else a * Nat.pow 10 (-s).toNat / b

/-- The decimals that read back as a number: those between `low` and `high`, all over `den`; the
ends belong to them when `closed`. The number itself is `mid / den`. -/
structure Interval where
  low : Nat
  mid : Nat
  high : Nat
  den : Nat
  closed : Bool

/-- The interval of a positive finite number. -/
def interval (m : Nat) (e : Int) : Interval :=
  let a := Nat.pow 2 (e - 2).toNat
  { low := (4 * m - if m == Nat.pow 2 52 && e > minExponent then 1 else 2) * a
    mid := 4 * m * a
    high := (4 * m + 2) * a
    den := Nat.pow 2 (2 - e).toNat
    closed := m % 2 == 0 }

/-- Whether `c * 10 ^ s` reads back as the number. -/
def Interval.holds (i : Interval) (c : Nat) (s : Int) : Bool :=
  let low := compareDecimal c s i.low i.den
  let high := compareDecimal c s i.high i.den
  (low == .gt || (low == .eq && i.closed)) && (high == .lt || (high == .eq && i.closed))

/-- Of `c` and `c + 1` units `10 ^ s` the one nearer to the number, a tie to the even one. -/
def Interval.nearer (i : Interval) (c : Nat) (s : Int) : Nat :=
  match compareDecimal (2 * c + 1) s (2 * i.mid) i.den with
  | .lt => c + 1
  | .gt => c
  | .eq => if c % 2 == 0 then c else c + 1

/-- The digits on the grid `10 ^ s` that read back as the number. -/
def Interval.onGrid? (i : Interval) (s : Int) : Option Nat :=
  let c := unitsAbove i.mid i.den s
  match i.holds c s, i.holds (c + 1) s with
  | true, true => some (i.nearer c s)
  | true, false => some c
  | false, true => some (c + 1)
  | false, false => none

/-- The first grid that has digits for the number, tried from `s` downwards. -/
def Interval.search (i : Interval) : (tries : Nat) → (s : Int) → Nat × Int
  | 0, s => (unitsAbove i.mid i.den s, s)
  | tries + 1, s =>
    match i.onGrid? s with
    | some c => (c, s)
    | none => i.search tries (s - 1)

/-- Digits and exponent without the trailing zeros of the digits. -/
def dropZeros : (fuel : Nat) → Nat → Int → Nat × Int
  | 0, c, s => (c, s)
  | fuel + 1, c, s => if c % 10 == 0 && c != 0 then dropZeros fuel (c / 10) (s + 1) else (c, s)

/-- The shortest `digits * 10 ^ exponent` that reads back as a positive finite number. -/
def shortest (m : Nat) (e : Int) : Nat × Int :=
  let i := interval m e
  let guess := Int.fdiv (((Nat.log2 m : Int) + e) * 30103) 100000
  let (c, s) := i.search 17 (decimalOrder i.mid i.den guess)
  dropZeros 20 c s

end Binary64

/-- How a format writes the values without digits. -/
structure Spelling where
  nan : String
  infinity : String

namespace Binary64

/-- The digits `ds` as a number below one times `10 ^ point`. -/
def layout (ds : List Char) (point : Int) : List Char :=
  if -4 < point && point ≤ 16 then
    if point ≤ 0 then '0' :: '.' :: List.replicate (-point).toNat '0' ++ ds
    else
      let whole := point.toNat
      if ds.length ≤ whole then ds ++ List.replicate (whole - ds.length) '0' ++ ['.', '0']
      else ds.take whole ++ '.' :: ds.drop whole
  else
    let exponent := point - 1
    let digits := Nat.toDigits 10 exponent.natAbs
    let padded := if digits.length < 2 then '0' :: digits else digits
    ds.take 1 ++ (if ds.length ≤ 1 then [] else '.' :: ds.drop 1) ++
      'e' :: (if exponent < 0 then '-' else '+') :: padded

/-- The written form of a number. -/
def text (spelling : Spelling) : Binary64 → String
  | nan => spelling.nan
  | infinite negative => (if negative then "-" else "") ++ spelling.infinity
  | finite negative m e =>
    let digits :=
      if m == 0 then "0.0"
      else
        let (c, s) := shortest m e
        let ds := Nat.toDigits 10 c
        String.ofList (layout ds (ds.length + s))
    (if negative then "-" else "") ++ digits

end Binary64

end Landmarks
