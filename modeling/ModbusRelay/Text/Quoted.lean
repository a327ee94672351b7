import ModbusRelay.Text.Graphic
import ModbusRelay.Text.Numeral

/-!
Texts in quotes, in the two forms in which they occur in answers.

`jsonQuoted` is a JSON string: only quotes, backslashes and control characters are escaped.
`displayQuoted` is for reading: whatever cannot be shown by itself is written by its code point.
-/

namespace ModbusRelay

/-- A number in `width` hexadecimal digits. -/
def hexPadded (width n : Nat) : String :=
  let digits := Nat.toDigits 16 n
  String.ofList (List.replicate (width - digits.length) '0' ++ digits)

/-- A character inside a JSON string. -/
def jsonEscaped (c : Char) : String :=
  match c with
  | '"' => "\\\""
  | '\\' => "\\\\"
  | '\x08' => "\\b"
  | '\x0c' => "\\f"
  | '\n' => "\\n"
  | '\r' => "\\r"
  | '\t' => "\\t"
  | c => if c.toNat < 0x20 then "\\u" ++ hexPadded 4 c.toNat else c.toString

/-- A text as a JSON string. -/
def jsonQuoted (text : String) : String :=
  "\"" ++ String.join (text.toList.map jsonEscaped) ++ "\""

/-- A character inside a text for display. -/
def displayEscaped (c : Char) : String :=
  match c with
  | '\x00' => "\\0"
  | '\t' => "\\t"
  | '\r' => "\\r"
  | '\n' => "\\n"
  | '"' => "\\\""
  | '\\' => "\\\\"
  | c => if isGraphic c then c.toString else "\\u\x7b" ++ hexText c.toNat ++ "\x7d"

/-- A text in quotes for reading. -/
def displayQuoted (text : String) : String :=
  "\"" ++ String.join (text.toList.map displayEscaped) ++ "\""

end ModbusRelay
