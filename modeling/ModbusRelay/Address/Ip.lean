import ModbusRelay.Text.Numeral

/-!
Internet addresses of both families, their text forms and which of them mean this machine.

The text form written is the usual short one: the longest run of at least two zero groups becomes
`::`, and an IPv4 address inside an IPv6 one is written with dots. The reader accepts every
standard form, but no octet with a leading zero.
-/

namespace ModbusRelay

/-- An address: four bytes, or eight groups of 16 bits. -/
inductive IpAddress where
  | v4 (a b c d : UInt8)
  | v6 (g₀ g₁ g₂ g₃ g₄ g₅ g₆ g₇ : UInt16)
  deriving DecidableEq, Repr

namespace IpAddress

/-- An address of the machine itself: 127.x.x.x, `::1`, or the former inside IPv6. -/
def isLoopback : IpAddress → Bool
  | .v4 a _ _ _ => a == 127
  | .v6 g₀ g₁ g₂ g₃ g₄ g₅ g₆ g₇ =>
    [g₀, g₁, g₂, g₃, g₄] == [0, 0, 0, 0, 0]
      && ((g₅ == 0 && g₆ == 0 && g₇ == 1) || (g₅ == 0xffff && g₆ >>> 8 == 127))

/-! ## Writing -/

/-- Four bytes in decimal with dots between them. -/
def dotted (a b c d : UInt8) : String :=
  ".".intercalate ([a, b, c, d].map fun x => toString x.toNat)

/-- The length of the run of zeros at the front. -/
def zeroRun (gs : List UInt16) : Nat := (gs.takeWhile (· == 0)).length

/-- Where the longest run of zeros starts and how long it is; the first of equals. -/
def longestZeroRun : List UInt16 → Nat × Nat
  | [] => (0, 0)
  | g :: gs =>
    let (start, size) := longestZeroRun gs
    let here := zeroRun (g :: gs)
    if size ≤ here ∧ 0 < here then (0, here) else (start + 1, size)

/-- Groups in hexadecimal with colons between them. -/
def groupText (gs : List UInt16) : String :=
  ":".intercalate (gs.map fun g => hexText g.toNat)

/-- Eight groups, with the longest run of at least two zeros left out. -/
def groupsText (gs : List UInt16) : String :=
  let (start, size) := longestZeroRun gs
  if 1 < size then groupText (gs.take start) ++ "::" ++ groupText (gs.drop (start + size))
  else groupText gs

/-- The text form of an address. -/
def text : IpAddress → String
  | .v4 a b c d => dotted a b c d
  | .v6 g₀ g₁ g₂ g₃ g₄ g₅ g₆ g₇ =>
    if [g₀, g₁, g₂, g₃, g₄, g₅] = [0, 0, 0, 0, 0, 0xffff] then
      "::ffff:" ++ dotted (g₆ >>> 8).toUInt8 g₆.toUInt8 (g₇ >>> 8).toUInt8 g₇.toUInt8
    else groupsText [g₀, g₁, g₂, g₃, g₄, g₅, g₆, g₇]

/-! ## Reading

Each reader takes what it can from the front and gives the rest. -/

/-- A number from as many digits as there are, at most `width` if it is given. -/
def readDigits (base limit : Nat) (width : Option Nat) (cs : List Char) :
    Option (Nat × List Char) :=
  let ds := cs.takeWhile fun c => (digit? base c).isSome
  if width.any (· < ds.length) then none
  else (numeral? base limit ds).map fun n => (n, cs.drop ds.length)

/-- One of the four numbers of an IPv4 address: no zero in front of another digit. -/
def readOctet (cs : List Char) : Option (UInt8 × List Char) :=
  match cs with
  | '0' :: c :: _ =>
    if (digit? 10 c).isSome then none
    else (readDigits 10 255 (some 3) cs).map fun (n, rest) => (n.toUInt8, rest)
  | _ => (readDigits 10 255 (some 3) cs).map fun (n, rest) => (n.toUInt8, rest)

/-- Takes one given character. -/
def readChar (c : Char) : List Char → Option (List Char)
  | d :: rest => if c = d then some rest else none
  | [] => none

/-- Four octets with dots between them. -/
def readV4 (cs : List Char) : Option ((UInt8 × UInt8 × UInt8 × UInt8) × List Char) := do
  let (a, cs) ← readOctet cs
  let cs ← readChar '.' cs
  let (b, cs) ← readOctet cs
  let cs ← readChar '.' cs
  let (c, cs) ← readOctet cs
  let cs ← readChar '.' cs
  let (d, cs) ← readOctet cs
  return ((a, b, c, d), cs)

/-- Reads up to `room` groups with colons between them; the last two may be an IPv4 address. Says
whether they were. The first group of a sequence has no colon in front. -/
def readGroups (first : Bool) : Nat → List Char → List UInt16 × Bool × List Char
  | 0, cs => ([], false, cs)
  | room + 1, cs =>
    match if first then some cs else readChar ':' cs with
    | none => ([], false, cs)
    | some inner =>
      match if 0 < room then readV4 inner else none with
      | some ((a, b, c, d), rest) =>
        ([a.toUInt16 <<< 8 ||| b.toUInt16, c.toUInt16 <<< 8 ||| d.toUInt16], true, rest)
      | none =>
        match readDigits 16 0xffff (some 4) inner with
        | none => ([], false, cs)
        | some (g, rest) =>
          let (gs, dots, rest) := readGroups false room rest
          (g.toUInt16 :: gs, dots, rest)

/-- The address of exactly eight groups. -/
def ofGroups : List UInt16 → Option IpAddress
  | [g₀, g₁, g₂, g₃, g₄, g₅, g₆, g₇] => some (.v6 g₀ g₁ g₂ g₃ g₄ g₅ g₆ g₇)
  | _ => none

/-- Eight groups, or fewer around one `::`. -/
def readV6 (cs : List Char) : Option (IpAddress × List Char) := do
  let (head, dots, cs) := readGroups true 8 cs
  if head.length = 8 then return (← ofGroups head, cs)
  if dots then failure
  let cs ← readChar ':' cs
  let cs ← readChar ':' cs
  let (tail, _, cs) := readGroups true (7 - head.length) cs
  return (← ofGroups (head ++ List.replicate (8 - head.length - tail.length) 0 ++ tail), cs)

/-! ## The loose form

Resolving a host also takes an IPv4 address as one to four numbers, each of them decimal,
hexadecimal after `0x` or octal after `0`. The last number fills all the bytes that are left. -/

/-- One number of the loose form. -/
def looseNumber? : List Char → Option Nat
  | '0' :: 'x' :: ds | '0' :: 'X' :: ds => numeral? 16 maxWord32 ds
  | '0' :: d :: ds => numeral? 8 maxWord32 (d :: ds)
  | ds => numeral? 10 maxWord32 ds

/-- The IPv4 address of a number of 32 bits. -/
def ofNat32 (n : Nat) : IpAddress :=
  .v4 (n >>> 24).toUInt8 (n >>> 16).toUInt8 (n >>> 8).toUInt8 n.toUInt8

/-- Puts the numbers of the loose form together; `bytes` bytes are left. -/
def looseValue? : Nat → List Nat → Option Nat
  | bytes, [n] => if n >>> (8 * bytes) = 0 then some n else none
  | bytes + 1, n :: ns =>
    if n < 256 then (looseValue? bytes ns).map (n <<< (8 * bytes) + ·) else none
  | _, _ => none

/-- An IPv4 address in its loose form. -/
def parseLoose? (text : String) : Option IpAddress := do
  let numbers ← (text.splitOn ".").mapM fun part => looseNumber? part.toList
  return ofNat32 (← looseValue? 4 numbers)

/-! ## Whole texts -/

/-- An address that is the whole text. -/
def parse? (text : String) : Option IpAddress :=
  match readV4 text.toList with
  | some ((a, b, c, d), []) => some (.v4 a b c d)
  | _ =>
    match readV6 text.toList with
    | some (ip, []) => some ip
    | _ => none

/-- The address that a host is, in its standard or its loose form. -/
def ofHost? (host : String) : Option IpAddress := parse? host <|> parseLoose? host

end IpAddress

end ModbusRelay
