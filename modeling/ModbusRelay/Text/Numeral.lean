/-!
Decimal and hexadecimal numerals in text.

`readNat?` is the reader of numbers that people type: ASCII digits, with or without one plus sign
in front, and nothing else; leading zeros are fine and a number above the limit is refused.
-/

namespace ModbusRelay

/-- The value of an ASCII digit in a base of at most sixteen. -/
def digit? (base : Nat) (c : Char) : Option Nat :=
  let value :=
    if '0' ≤ c ∧ c ≤ '9' then some (c.toNat - '0'.toNat)
    else if 'a' ≤ c ∧ c ≤ 'f' then some (c.toNat - 'a'.toNat + 10)
    else if 'A' ≤ c ∧ c ≤ 'F' then some (c.toNat - 'A'.toNat + 10)
    else none
  value.filter (· < base)

/-- Appends digits to a number; `none` if one of the characters is no digit. -/
def digits? (base : Nat) : Nat → List Char → Option Nat
  | n, [] => some n
  | n, c :: cs => do digits? base (n * base + (← digit? base c)) cs

/-- A number of at least one digit and at most `limit`. -/
def numeral? (base limit : Nat) : List Char → Option Nat
  | [] => none
  | cs => (digits? base 0 cs).filter (· ≤ limit)

/-- A number as it is written on a command line. -/
def readNat? (limit : Nat) (text : String) : Option Nat :=
  match text.toList with
  | '+' :: cs => numeral? 10 limit cs
  | cs => numeral? 10 limit cs

/-- The largest number of 64 bits. -/
def maxWord64 : Nat := 0xffffffffffffffff

/-- The largest number of 32 bits. -/
def maxWord32 : Nat := 0xffffffff

/-- The largest port. -/
def maxPort : Nat := 65535

/-- The lower-case hexadecimal text of a number, without leading zeros. -/
def hexText (n : Nat) : String :=
  String.ofList (Nat.toDigits 16 n)

end ModbusRelay
