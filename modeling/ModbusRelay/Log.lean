import ModbusRelay.Text.Quoted

/-!
Log lines: a level, a message and named fields. A line is written either for people or as a JSON
object.
-/

namespace ModbusRelay

/-- How serious a line is. -/
inductive LogLevel where
  | debug
  | info
  | warn
  | error
  deriving DecidableEq, Repr

/-- The level as it is written. -/
def LogLevel.label : LogLevel → String
  | .debug => "DEBUG"
  | .info => "INFO"
  | .warn => "WARN"
  | .error => "ERROR"

/-- The value of a field. -/
inductive LogValue where
  | number (n : Nat)
  | text (s : String)
  | flag (b : Bool)
  deriving DecidableEq, Repr

namespace LogValue

/-- The value as it is. -/
def plain : LogValue → String
  | .number n => toString n
  | .text s => s
  | .flag b => toString b

/-- The value in a JSON object: only texts are quoted. -/
def json : LogValue → String
  | .number n => toString n
  | .text s => jsonQuoted s
  | .flag b => toString b

end LogValue

/-- One line of the log. -/
structure LogLine where
  level : LogLevel
  message : String
  fields : List (String × LogValue) := []
  deriving DecidableEq, Repr

namespace LogLine

/-- The line for people: level, message, and the fields as `key=value`. -/
def plain (l : LogLine) : String :=
  " ".intercalate (l.level.label :: l.message :: l.fields.map fun (key, v) => key ++ "=" ++ v.plain)

/-- The line as an object, in which the message is the first of the fields. -/
def json (l : LogLine) : String :=
  let fields := ("message", .text l.message) :: l.fields
  "\x7b\"level\":" ++ jsonQuoted l.level.label ++ ",\"fields\":\x7b"
    ++ ",".intercalate (fields.map fun (key, v) => jsonQuoted key ++ ":" ++ v.json) ++ "\x7d\x7d"

end LogLine

end ModbusRelay
