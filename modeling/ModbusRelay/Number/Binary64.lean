/-!
Numbers with a binary fraction of 53 bits, of which only those from zero up are needed: the value
of `⟨m, e⟩` is `m · 2 ^ e`. Everything is computed from exact fractions, rounded once to the nearest
such number; of two that are equally near, the one with the even significand is taken.
-/

namespace ModbusRelay

/-- A number `significand · 2 ^ exponent`. -/
structure Binary64 where
  significand : Nat
  exponent : Int
  deriving DecidableEq, Repr

/-- A power of ten. -/
def tenPow (k : Nat) : Nat := Nat.pow 10 k

namespace Binary64

/-- The bits of a significand. -/
def precision : Nat := 53

/-- The smallest exponent; below it a significand has fewer bits. -/
def minExponent : Int := -1074

/-- The largest exponent. -/
def maxExponent : Int := 971

/-- The number zero. -/
def zero : Binary64 := ⟨0, minExponent⟩

/-- Is the number zero? -/
def isZero (x : Binary64) : Bool := x.significand == 0

/-- The quotient rounded to the nearest whole number, a tie to the even one. -/
def roundDiv (num den : Nat) : Nat :=
  let q := num / den
  let r := num % den
  if den < 2 * r ∨ (den = 2 * r ∧ q % 2 = 1) then q + 1 else q

/-- `num / den / 2 ^ e` as a fraction. -/
def scaled (num den : Nat) (e : Int) : Nat × Nat :=
  (num <<< (-e).toNat, den <<< e.toNat)

/-- An exponent for which the significand of a fraction has all its bits, or the smallest one. -/
def exponentOf (num den : Nat) : Int :=
  let guess : Int := (Nat.log2 num : Int) - Nat.log2 den - precision
  let (n, d) := scaled num den guess
  max minExponent (if d <<< precision ≤ n then guess + 1 else guess)

/-- The nearest number to a fraction; `none` if it is too large. -/
def ofFraction (num den : Nat) : Option Binary64 :=
  if num = 0 then some zero
  else
    let e := exponentOf num den
    let (n, d) := scaled num den e
    let m := roundDiv n d
    let x : Binary64 := if m = 1 <<< precision then ⟨1 <<< (precision - 1), e + 1⟩ else ⟨m, e⟩
    if maxExponent < x.exponent then none else some x

/-- The number as an exact fraction. -/
def fraction (x : Binary64) : Nat × Nat :=
  (x.significand <<< x.exponent.toNat, 1 <<< (-x.exponent).toNat)

/-- The nearest number to a whole one. -/
def ofNat (n : Nat) : Option Binary64 := ofFraction n 1

/-- The product of two numbers, if it is not too large. -/
def mul (x y : Binary64) : Option Binary64 :=
  ofFraction (x.fraction.1 * y.fraction.1) (x.fraction.2 * y.fraction.2)

/-- The quotient of two numbers, if it is not too large. -/
def div (x y : Binary64) : Option Binary64 :=
  ofFraction (x.fraction.1 * y.fraction.2) (x.fraction.2 * y.fraction.1)

end Binary64

end ModbusRelay
