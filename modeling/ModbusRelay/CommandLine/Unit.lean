/-!
The units of a command line: a flag together with the value behind it, a switch, a call for help, or
something that means nothing. A flag takes whatever comes next as its value, even if that looks like
a flag.
-/

namespace ModbusRelay

/-- The flags that take a value. -/
inductive ValueFlag where
  | runSeconds
  | listen
  | target
  | controlAddress
  | metricsAddress
  | connectTimeout
  | requestTimeout
  | maxPending
  | duplicatePolicy
  deriving DecidableEq, Repr

namespace ValueFlag

/-- Every flag that takes a value. -/
def all : List ValueFlag :=
  [.runSeconds, .listen, .target, .controlAddress, .metricsAddress, .connectTimeout,
    .requestTimeout, .maxPending, .duplicatePolicy]

/-- The flag as it is written. -/
def text : ValueFlag → String
  | .runSeconds => "--run-seconds"
  | .listen => "--listen"
  | .target => "--target"
  | .controlAddress => "--control-addr"
  | .metricsAddress => "--metrics-addr"
  | .connectTimeout => "--connect-timeout-ms"
  | .requestTimeout => "--request-timeout-ms"
  | .maxPending => "--max-pending"
  | .duplicatePolicy => "--duplicate-policy"

/-- The flag that is written so. -/
def ofText? (text : String) : Option ValueFlag := all.find? (·.text == text)

end ValueFlag

/-- The flags that stand alone. -/
inductive Switch where
  | noControl
  | jsonLogs
  deriving DecidableEq, Repr

/-- The switch that is written so. -/
def Switch.ofText? : String → Option Switch
  | "--no-control" => some .noControl
  | "--json-logs" => some .jsonLogs
  | _ => none

/-- A unit of the command line. -/
inductive ArgUnit where
  | value (flag : ValueFlag) (value : String)
  | switch (s : Switch)
  | help
  /-- A flag that should have a value and is the last element. -/
  | dangling (flag : ValueFlag)
  | unknown (text : String)
  deriving DecidableEq, Repr

namespace ArgUnit

/-- The unit of an element that has no value behind it. -/
def single (text : String) : ArgUnit :=
  if text = "--help" ∨ text = "-h" then .help
  else
    match Switch.ofText? text, ValueFlag.ofText? text with
    | some s, _ => .switch s
    | none, some flag => .dangling flag
    | none, none => .unknown text

/-- Splits the arguments into units. -/
def split : List String → List ArgUnit
  | [] => []
  | [text] => [single text]
  | text :: next :: rest =>
    match ValueFlag.ofText? text with
    | some flag => .value flag next :: split rest
    | none => single text :: split (next :: rest)

end ArgUnit

end ModbusRelay
