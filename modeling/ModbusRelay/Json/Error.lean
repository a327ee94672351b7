import ModbusRelay.Number.Shortest
import ModbusRelay.Text.Quoted

/-!
What can be wrong with the body of a start request: it is no JSON text, or a value is not what the
field needs. The first problem from the left is reported.
-/

namespace ModbusRelay

/-- A number in a JSON text, as it is kept: whole if it was written so and fits into 64 bits. -/
inductive JsonNumber where
  | unsigned (n : Nat)
  /-- A whole number below zero, given without its sign. -/
  | negative (n : Nat)
  | fraction (isNegative : Bool) (x : Binary64)
  deriving DecidableEq, Repr

/-- The value that was found where another one was expected. -/
inductive JsonFound where
  | null
  | boolean (b : Bool)
  | number (n : JsonNumber)
  | string (s : String)
  | sequence
  | map
  deriving DecidableEq, Repr

/-- What a value was expected to be. -/
inductive JsonExpected where
  | text
  | port
  | startRequest
  deriving DecidableEq, Repr

/-- The first problem of a body. -/
inductive JsonError where
  | endInValue
  | endInObject
  | endInList
  | endInString
  | expectedValue
  | expectedIdent
  | expectedColon
  | expectedObjectCommaOrEnd
  | expectedListCommaOrEnd
  | keyNoString
  | trailingComma
  | trailingCharacters
  | invalidNumber
  | numberOutOfRange
  | invalidEscape
  /-- The first half of a surrogate pair without the second half. -/
  | endOfHexEscape
  | loneSurrogate
  | controlCharacter
  | duplicateField (name : String)
  | invalidType (found : JsonFound) (expected : JsonExpected)
  | invalidValue (found : JsonNumber) (expected : JsonExpected)
  /-- A list with too few elements. -/
  | invalidLength (length : Nat)
  deriving DecidableEq, Repr

/-- A number as an error describes it. -/
def JsonNumber.description : JsonNumber → String
  | .unsigned n => "integer `" ++ toString n ++ "`"
  | .negative n => "integer `-" ++ toString n ++ "`"
  | .fraction isNegative x =>
    "floating point `" ++ (if isNegative then "-" else "") ++ x.text ++ "`"

/-- A value as an error describes it; of a list or an object only the kind. -/
def JsonFound.description : JsonFound → String
  | .null => "null"
  | .boolean b => "boolean `" ++ (if b then "true" else "false") ++ "`"
  | .number n => n.description
  | .string s => "string " ++ displayQuoted s
  | .sequence => "sequence"
  | .map => "map"

/-- The name of what was expected. -/
def JsonExpected.description : JsonExpected → String
  | .text => "a string"
  | .port => "u16"
  | .startRequest => "struct StartRequest"

/-- The wording of a problem. -/
def JsonError.message : JsonError → String
  | .endInValue => "EOF while parsing a value"
  | .endInObject => "EOF while parsing an object"
  | .endInList => "EOF while parsing a list"
  | .endInString => "EOF while parsing a string"
  | .expectedValue => "expected value"
  | .expectedIdent => "expected ident"
  | .expectedColon => "expected `:`"
  | .expectedObjectCommaOrEnd => "expected `,` or `\x7d`"
  | .expectedListCommaOrEnd => "expected `,` or `]`"
  | .keyNoString => "key must be a string"
  | .trailingComma => "trailing comma"
  | .trailingCharacters => "trailing characters"
  | .invalidNumber => "invalid number"
  | .numberOutOfRange => "number out of range"
  | .invalidEscape => "invalid escape"
  | .endOfHexEscape => "unexpected end of hex escape"
  | .loneSurrogate => "lone leading surrogate in hex escape"
  | .controlCharacter => "control character (\\u0000-\\u001F) found while parsing a string"
  | .duplicateField name => "duplicate field `" ++ name ++ "`"
  | .invalidType found expected =>
    "invalid type: " ++ found.description ++ ", expected " ++ expected.description
  | .invalidValue found expected =>
    "invalid value: " ++ found.description ++ ", expected " ++ expected.description
  | .invalidLength length =>
    "invalid length " ++ toString length ++ ", expected struct StartRequest with 4 elements"

end ModbusRelay
