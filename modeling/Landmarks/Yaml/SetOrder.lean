import Landmarks.Yaml.Value

/-!
# The order of sets

A set of numbers is shown in an order that depends on the numbers and only a little on the order in
which they were given: each has a place in a table, and the table is read from its start.

* `Value.residue?` : a number modulo the prime `2 ^ 61 - 1`, the same for equal numbers.
* `Value.inSetOrder` : the members of a set in the order in which they are shown. Other members than
  numbers keep the order in which they were given.
-/

namespace Landmarks.Yaml.Value

/-- The prime that residues are taken of. -/
def prime : Nat := 0x1FFFFFFFFFFFFFFF

/-- The residue of `± num / den`, where `den` is a power of two. Minus one is not used. -/
def residueOf (negative : Bool) (num den : Nat) : Int :=
  let n := num % prime * Nat.pow 2 (61 - Nat.log2 den % 61) % prime
  let r : Int := if negative then -(n : Int) else n
  if r == -1 then -2 else r

/-- The residue of a number; infinities have one by convention. -/
def residue? : Value → Option Int
  | bool b => some (if b then 1 else 0)
  | int i => some (residueOf (i < 0) i.natAbs 1)
  | float (.finite negative m e) =>
    let (num, den) := Binary64.ratio m e
    some (residueOf negative num den)
  | float (.infinite negative) => some (if negative then -314159 else 314159)
  | _ => none

/-- The least power of two that is greater than `n` and not below `size`, a power of two itself;
`fuel` bounds how often the size is doubled. -/
def doubled (n : Nat) : (fuel size : Nat) → Nat
  | 0, size => size
  | fuel + 1, size => if size ≤ n then doubled n fuel (2 * size) else size

/-- The size of the table for `n` members. -/
def tableSize (n : Nat) : Nat := if n ≤ 4 then 8 else doubled (2 * n) n 8

/-- The first free place from a place on: nine places behind it are tried if there are so many, and
then another place, which depends on what is left of the residue. -/
def freePlace (table : Array (Option Value)) : (fuel place left : Nat) → Nat
  | 0, place, _ => place
  | fuel + 1, place, left =>
    let tries := if place + 9 < table.size then 10 else 1
    match ((List.range tries).map (place + ·)).find? fun i => (table.getD i none).isNone with
    | some i => i
    | none =>
      let left := left / 32
      freePlace table fuel ((5 * place + 1 + left) % table.size) left

/-- With a member of the given residue in the table. -/
def place (table : Array (Option Value)) (member : Value × Int) : Array (Option Value) :=
  let start := (member.2 % (table.size : Int)).toNat
  let left := (member.2 % 0x10000000000000000).toNat
  table.setIfInBounds (freePlace table (table.size + 16) start left) (some member.1)

/-- The members of a set in the order in which they are shown. -/
def inSetOrder (members : List Value) : List Value :=
  match members.mapM fun v => v.residue?.map fun r => (v, r) with
  | some numbers =>
    let empty : Array (Option Value) := Array.replicate (tableSize members.length) none
    (numbers.foldl place empty).toList.filterMap id
  | none => members

end Landmarks.Yaml.Value
