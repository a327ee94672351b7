import ModbusRelay.CommandLine.Unit
import ModbusRelay.Settings

/-!
The options of the program, and how the command line sets them.

Units are applied from left to right up to the first call for help. A value that cannot be used is
remembered and otherwise ignored, with one exception: an unusable run time also takes back one that
was set before.
-/

namespace ModbusRelay

/-- Everything that the command line decides. -/
structure Options where
  showHelp : Bool := false
  runSeconds : Option Nat := none
  listen : String := "0.0.0.0:5020"
  target : Option String := none
  controlAddress : String := "0.0.0.0:8080"
  controlEnabled : Bool := true
  jsonLogs : Bool := false
  metricsAddress : Option String := none
  connectTimeout : Nat := 3000
  requestTimeout : Nat := 5000
  maxPending : Nat := 1024
  duplicatePolicy : DuplicatePolicy := .reject
  /-- The flags that had unusable values, with these values. -/
  rejected : List String := []
  deriving DecidableEq, Repr

namespace Options

/-- Remembers a value that cannot be used. -/
def reject (o : Options) (flag : ValueFlag) (value : String) : Options :=
  { o with rejected := o.rejected ++ [flag.text ++ " " ++ value] }

/-- Gives a flag its value. -/
def setValue (o : Options) (flag : ValueFlag) (value : String) : Options :=
  match flag with
  | .listen => { o with listen := value }
  | .target => { o with target := some value }
  | .controlAddress => { o with controlAddress := value }
  | .metricsAddress => { o with metricsAddress := some value }
  | .runSeconds =>
    match readNat? maxWord64 value with
    | some n => { o with runSeconds := some n }
    | none => { o with runSeconds := none }.reject flag value
  | .connectTimeout =>
    match readNat? maxWord64 value with
    | some n => { o with connectTimeout := n }
    | none => o.reject flag value
  | .requestTimeout =>
    match readNat? maxWord64 value with
    | some n => { o with requestTimeout := n }
    | none => o.reject flag value
  | .maxPending =>
    match readNat? maxWord64 value with
    | some n => { o with maxPending := n }
    | none => o.reject flag value
  | .duplicatePolicy =>
    match DuplicatePolicy.parse? value with
    | some policy => { o with duplicatePolicy := policy }
    | none => o.reject flag value

/-- The options after one more unit. -/
def apply (o : Options) : ArgUnit → Options
  | .value flag value => o.setValue flag value
  | .switch .noControl => { o with controlEnabled := false }
  | .switch .jsonLogs => { o with jsonLogs := true }
  | .help => { o with showHelp := true }
  | .dangling _ | .unknown _ => o

/-- The units that count: those up to the first call for help, with it. -/
def effective : List ArgUnit → List ArgUnit
  | [] => []
  | .help :: _ => [.help]
  | unit :: rest => unit :: effective rest

/-- The options of a list of units. -/
def ofUnits (units : List ArgUnit) : Options := (effective units).foldl apply {}

/-- The options of a command line, whose first element is the name of the program. -/
def parse (args : List String) : Options := ofUnits (ArgUnit.split (args.drop 1))

/-- The settings for every relay that the program starts. -/
def template (o : Options) : Settings :=
  { listen := o.listen
    target := o.target.getD ""
    connectTimeout := o.connectTimeout
    requestTimeout := o.requestTimeout
    maxPending := o.maxPending
    duplicatePolicy := o.duplicatePolicy }

end Options

end ModbusRelay
