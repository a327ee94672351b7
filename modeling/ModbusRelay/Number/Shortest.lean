import ModbusRelay.Number.Binary64

/-!
The shortest decimal text of a binary fraction: the fewest digits that are read back as the same
number, and of those with that many digits the nearest; of two equally near ones the even one.

All fractions that lie between the midpoints to the two neighbours are read back as the number, the
midpoints themselves just when the significand is even.
-/

namespace ModbusRelay

namespace Binary64

/-- The midpoints to the neighbours of a number, and the number, in units of a quarter of its last
binary place. Below a power of two the places are half as wide. -/
def quarters (x : Binary64) : Nat × Nat × Nat :=
  let m := x.significand
  let below := if m = 1 <<< (precision - 1) ∧ minExponent < x.exponent then 1 else 2
  (4 * m - below, 4 * m, 4 * m + 2)

/-- Is `digits · 10 ^ k` read back as the number? -/
def readsBack (x : Binary64) (digits : Nat) (k : Int) : Bool :=
  let (low, _, high) := x.quarters
  let q := x.exponent - 2
  let value := (digits * tenPow k.toNat) <<< (-q).toNat
  let unit := tenPow (-k).toNat <<< q.toNat
  if x.significand % 2 = 0 then low * unit ≤ value && value ≤ high * unit
  else low * unit < value && value < high * unit

/-- The largest `k` with `10 ^ k` at most the number, which is not zero. -/
def leadingPlace (x : Binary64) : Int :=
  let (num, den) := x.fraction
  if den ≤ num then ((Nat.toDigits 10 (num / den)).length : Int) - 1
  else -((Nat.toDigits 10 ((den - 1) / num)).length : Int)

/-- A number that has got one digit too many because it was rounded up to a power of ten. -/
def carried (digits : Nat) (n : Nat) (k : Int) : Nat × Int :=
  if n = tenPow digits then (tenPow (digits - 1), k + 1) else (n, k)

/-- The nearest number of so many digits that is read back, if there is one. -/
def shorten (x : Binary64) (digits : Nat) : Option (Nat × Int) :=
  let k := x.leadingPlace - digits + 1
  let (num, den) := x.fraction
  let n := num * tenPow (-k).toNat
  let d := den * tenPow k.toNat
  let low := n / d
  match x.readsBack low k, x.readsBack (low + 1) k with
  | true, true => some (carried digits (roundDiv n d) k)
  | true, false => some (low, k)
  | false, true => some (carried digits (low + 1) k)
  | false, false => none

/-- The shortest digits that are read back, with the place of the last one. Seventeen digits are
always enough. -/
def shortest (x : Binary64) : Nat × Int :=
  if x.isZero then (0, 0)
  else ((List.range 17).findSome? fun n => x.shorten (n + 1)).getD (0, 0)

/-- Digits with a point at the right place; whole numbers get `.0`. -/
def positional (digits : Nat) (k : Int) : String :=
  if 0 ≤ k then toString (digits * tenPow k.toNat) ++ ".0"
  else
    let places := (-k).toNat
    let fraction := toString (digits % tenPow places)
    toString (digits / tenPow places) ++ "."
      ++ String.ofList (List.replicate (places - fraction.length) '0') ++ fraction

/-- Digits with a point behind the first one, if there are more, and the power of ten. -/
def scientific (digits : Nat) (place : Int) : String :=
  let text := toString digits
  let power := (if place < 0 then "e-" else "e+") ++ toString place.natAbs
  match text.toList with
  | first :: second :: rest => String.ofList (first :: '.' :: second :: rest) ++ power
  | _ => text ++ power

/-- The places of the first digit for which a number is written without a power of ten. -/
def Plain (place : Int) : Prop := -5 ≤ place ∧ place ≤ 15

instance (place : Int) : Decidable (Plain place) := inferInstanceAs (Decidable (_ ∧ _))

/-- The shortest text: plain where that is short enough, with a power of ten elsewhere. -/
def text (x : Binary64) : String :=
  let (digits, k) := x.shortest
  let place := k + ((Nat.toDigits 10 digits).length : Int) - 1
  if Plain place then positional digits k else scientific digits place

end Binary64

end ModbusRelay
