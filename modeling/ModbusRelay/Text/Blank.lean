/-!
White space in the sense of the Unicode property White_Space, and trimming it off a text.
-/

namespace ModbusRelay

/-- Has the character the property White_Space? -/
def isBlank (c : Char) : Bool :=
  let n := c.toNat
  (0x9 ≤ n && n ≤ 0xd) || n == 0x20 || n == 0x85 || n == 0xa0 || n == 0x1680
    || (0x2000 ≤ n && n ≤ 0x200a) || n == 0x2028 || n == 0x2029 || n == 0x202f || n == 0x205f
    || n == 0x3000

/-- A list of characters without the blanks at both ends. -/
def trimChars (cs : List Char) : List Char :=
  ((cs.dropWhile isBlank).reverse.dropWhile isBlank).reverse

/-- A text without the blanks at both ends. -/
def trimBlank (text : String) : String := String.ofList (trimChars text.toList)

/-- The lower-case form of ASCII letters; other characters stay. -/
def lowerAscii (text : String) : String := String.ofList (text.toList.map Char.toLower)

end ModbusRelay
