import ModbusRelay.Json.Error

/-!
The lexical parts of a JSON text. Each reader takes its part off the front of the characters and
gives the rest, or the first thing that is wrong.

A number keeps its digits in 64 bits. A whole number that does not fit, and one with a point or an
exponent, becomes a binary fraction: the digits that fit, times or divided by a power of ten, with
one rounding for each of these operations.
-/

namespace ModbusRelay

namespace Json

/-- Skips white space between the parts of a JSON text. -/
def skipSpace (cs : List Char) : List Char :=
  cs.dropWhile fun c => c == ' ' || c == '\n' || c == '\t' || c == '\r'

/-- Reads the rest of a word. -/
def readWord (word cs : List Char) : Except JsonError (List Char) :=
  match word, cs with
  | [], cs => .ok cs
  | _ :: _, [] => .error .endInValue
  | w :: word, c :: cs => if c = w then readWord word cs else .error .expectedIdent

/-! ## Numbers -/

/-- Is the character a decimal digit? -/
def isDigit (c : Char) : Bool := '0' ≤ c && c ≤ '9'

/-- The value of a decimal digit. -/
def digitValue (c : Char) : Nat := c.toNat - '0'.toNat

/-- Takes digits while the number stays within 64 bits. Also counts them. -/
def takeDigits (n count : Nat) : List Char → Nat × Nat × List Char
  | [] => (n, count, [])
  | c :: cs =>
    if isDigit c && n * 10 + digitValue c ≤ maxWord64 then
      takeDigits (n * 10 + digitValue c) (count + 1) cs
    else (n, count, c :: cs)

/-- Skips the digits at the front. -/
def skipDigits (cs : List Char) : List Char := cs.dropWhile isDigit

/-- The largest power of ten that is used at once. -/
def maxPower : Nat := 308

/-- `x · 10 ^ exponent`. Towards zero there is no limit. -/
def scale (x : Binary64) (exponent : Int) : Except JsonError Binary64 :=
  if x.isZero then .ok x
  else if maxPower < exponent then .error .numberOutOfRange
  else if 0 ≤ exponent then
    match (Binary64.ofNat (tenPow exponent.toNat)).bind x.mul with
    | some y => .ok y
    | none => .error .numberOutOfRange
  else if -exponent ≤ maxPower then
    .ok (((Binary64.ofNat (tenPow (-exponent).toNat)).bind x.div).getD .zero)
  else
    scale (((Binary64.ofNat (tenPow maxPower)).bind x.div).getD .zero) (exponent + maxPower)
termination_by (-exponent).toNat
decreasing_by simp only [maxPower] at *; omega

/-- The number with these digits and this exponent. -/
def fractionOf (isNegative : Bool) (digits : Nat) (exponent : Int) (rest : List Char) :
    Except JsonError (JsonNumber × List Char) :=
  match scale ((Binary64.ofNat digits).getD .zero) exponent with
  | .ok x => .ok (.fraction isNegative x, rest)
  | .error e => .error e

/-- The largest exponent that is computed with. -/
def maxExponent : Nat := 0x7fffffff

/-- Takes the digits of an exponent; `none` if it is too large. -/
def takeExponent (n : Nat) : List Char → Option Nat × List Char
  | [] => (some n, [])
  | c :: cs =>
    if isDigit c then
      if n * 10 + digitValue c ≤ maxExponent then takeExponent (n * 10 + digitValue c) cs
      else (none, skipDigits cs)
    else (some n, c :: cs)

/-- The sign of an exponent, if there is one. -/
def takeSign : List Char → Bool × List Char
  | '+' :: cs => (false, cs)
  | '-' :: cs => (true, cs)
  | cs => (false, cs)

/-- What follows the `e` of a number. -/
def readExponent (isNegative : Bool) (digits : Nat) (exponent : Int) (cs : List Char) :
    Except JsonError (JsonNumber × List Char) :=
  let (down, cs) := takeSign cs
  match cs with
  | [] => .error .endInValue
  | c :: rest =>
    if !isDigit c then .error .invalidNumber
    else
      match takeExponent (digitValue c) rest with
      | (some n, rest) =>
        fractionOf isNegative digits (if down then exponent - n else exponent + n) rest
      | (none, rest) =>
        if digits ≠ 0 ∧ !down then .error .numberOutOfRange
        else .ok (.fraction isNegative .zero, rest)

/-- An `e` with what follows it, if it comes next; else the number is complete. -/
def readExponentPart (isNegative : Bool) (digits : Nat) (exponent : Int) (cs : List Char) :
    Except JsonError (JsonNumber × List Char) :=
  match cs with
  | 'e' :: rest | 'E' :: rest => readExponent isNegative digits exponent rest
  | _ => fractionOf isNegative digits exponent cs

/-- What follows the point of a number. Digits that do not fit are ignored. -/
def readDecimals (isNegative : Bool) (digits : Nat) (exponent : Nat) (cs : List Char) :
    Except JsonError (JsonNumber × List Char) :=
  let (more, count, rest) := takeDigits digits 0 cs
  match rest with
  | c :: _ =>
    if isDigit c then
      readExponentPart isNegative more ((exponent : Int) - count) (skipDigits rest)
    else if count = 0 then .error .invalidNumber
    else readExponentPart isNegative more ((exponent : Int) - count) rest
  | [] =>
    if count = 0 then .error .endInValue
    else readExponentPart isNegative more ((exponent : Int) - count) []

/-- What follows the digits in front of the point, of which the last `exponent` did not fit. -/
def readAfterWhole (isNegative : Bool) (digits exponent : Nat) (cs : List Char) :
    Except JsonError (JsonNumber × List Char) :=
  match cs with
  | '.' :: rest => readDecimals isNegative digits exponent rest
  | 'e' :: rest | 'E' :: rest => readExponent isNegative digits exponent rest
  | _ =>
    if exponent ≠ 0 then fractionOf isNegative digits exponent cs
    else if !isNegative then .ok (.unsigned digits, cs)
    else if 0 < digits ∧ digits ≤ 0x8000000000000000 then .ok (.negative digits, cs)
    else fractionOf isNegative digits 0 cs

/-- A number, after its sign. A zero may not be followed by a digit. -/
def readNumber (isNegative : Bool) (cs : List Char) : Except JsonError (JsonNumber × List Char) :=
  match cs with
  | [] => .error .endInValue
  | '0' :: rest =>
    if rest.head?.any isDigit then .error .invalidNumber else readAfterWhole isNegative 0 0 rest
  | c :: rest =>
    if isDigit c then
      let (digits, _, rest) := takeDigits (digitValue c) 1 rest
      let unread := skipDigits rest
      readAfterWhole isNegative digits (rest.length - unread.length) unread
    else .error .invalidNumber

/-! ## Strings -/

/-- The value of four hexadecimal digits. -/
def hex4? (a b c d : Char) : Option Nat := numeral? 16 0xffff [a, b, c, d]

/-- What is wrong with a hexadecimal escape: four bytes are looked at, if there are that many. -/
def hexError (cs : List Char) : JsonError :=
  if (String.ofList cs).utf8ByteSize < 4 then .endInString else .invalidEscape

/-- The character of a short escape. -/
def shortEscape? : Char → Option Char
  | '"' => some '"'
  | '\\' => some '\\'
  | '/' => some '/'
  | 'b' => some '\x08'
  | 'f' => some '\x0c'
  | 'n' => some '\n'
  | 'r' => some '\r'
  | 't' => some '\t'
  | _ => none

/-- The character of a surrogate pair. -/
def pairChar (high low : Nat) : Char :=
  Char.ofNat (0x10000 + (high - 0xd800) * 0x400 + (low - 0xdc00))

/-- Reads a string after its opening quote; `acc` holds the characters so far, last first. -/
def readString (acc : List Char) : List Char → Except JsonError (String × List Char)
  | [] => .error .endInString
  | '"' :: rest => .ok (String.ofList acc.reverse, rest)
  | '\\' :: 'u' :: a :: b :: c :: d :: rest =>
    match hex4? a b c d with
    | none => .error (hexError [a, b, c, d])
    | some n =>
      if 0xdc00 ≤ n ∧ n ≤ 0xdfff then .error .loneSurrogate
      else if n < 0xd800 ∨ 0xdfff < n then readString (Char.ofNat n :: acc) rest
      else
        match rest with
        | '\\' :: 'u' :: e :: f :: g :: h :: rest =>
          match hex4? e f g h with
          | none => .error (hexError [e, f, g, h])
          | some m =>
            if m < 0xdc00 ∨ 0xdfff < m then .error .loneSurrogate
            else readString (pairChar n m :: acc) rest
        | '\\' :: 'u' :: short => .error (hexError short)
        | [] | ['\\'] => .error .endInString
        | _ => .error .endOfHexEscape
  | '\\' :: 'u' :: short => .error (hexError short)
  | ['\\'] => .error .endInString
  | '\\' :: c :: rest =>
    match shortEscape? c with
    | some d => readString (d :: acc) rest
    | none => .error .invalidEscape
  | c :: rest => if c.toNat < 0x20 then .error .controlCharacter else readString (c :: acc) rest

/-- Skips a string after its opening quote. Halves of surrogate pairs do not matter here. -/
def skipString : List Char → Except JsonError (List Char)
  | [] => .error .endInString
  | '"' :: rest => .ok rest
  | '\\' :: 'u' :: a :: b :: c :: d :: rest =>
    match hex4? a b c d with
    | none => .error (hexError [a, b, c, d])
    | some _ => skipString rest
  | '\\' :: 'u' :: short => .error (hexError short)
  | ['\\'] => .error .endInString
  | '\\' :: c :: rest =>
    match shortEscape? c with
    | some _ => skipString rest
    | none => .error .invalidEscape
  | c :: rest => if c.toNat < 0x20 then .error .controlCharacter else skipString rest

end Json

end ModbusRelay
