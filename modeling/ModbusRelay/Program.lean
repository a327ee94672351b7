import ModbusRelay.CommandLine.Help
import ModbusRelay.CommandLine.Options
import ModbusRelay.Host.Control

/-!
The program: from its options to its end, on a given network and with given requests to its control
interface. It owns one `Host`, starts a relay at once if it has a target, serves requests until its
time is over, and stops whatever relay there is before it ends. The metrics server has a thread of
its own, so it may be bound at any time.
-/

namespace ModbusRelay

/-- How a run of the program ends. -/
inductive RunEnd where
  | completed
  | failed (cause : RelayError)
  /-- The end of the run lies beyond the end of the clock. -/
  | crashed
  deriving DecidableEq

/-- The exit code of the process. -/
def RunEnd.exitCode : RunEnd → Nat
  | .completed => 0
  | .failed _ => 1
  | .crashed => 101

namespace Program

/-- The clock counts the seconds since the machine was switched on, but not this many. -/
def clockEnd : Nat := 0x8000000000000000

/-- The host before anything is started, with the log of what was wrong on the command line. -/
def host (o : Options) (n : Network) : Host :=
  { network := n
    template := o.template
    log :=
      o.rejected.map fun flag =>
        ⟨.warn, "Ignoring invalid command-line value", [("flag", .text flag)]⟩ }

/-- The log line by which the metrics server is given a thread, if there is to be one. -/
def metricsLine? (o : Options) : Option LogLine :=
  o.metricsAddress.map fun address =>
    ⟨.info, "Starting metrics server", [("addr", .text address)]⟩

/-- Binds the metrics server, if there is to be one. -/
def bindMetrics (o : Options) (h : Host) : Host := o.metricsAddress.elim h h.serveMetrics

/-- The log line with the settings for every relay of the run. -/
def settingsLine (o : Options) : LogLine :=
  ⟨.info, "Proxy settings",
    [ ("connect_timeout_ms", .number o.connectTimeout),
      ("request_timeout_ms", .number o.requestTimeout), ("max_pending", .number o.maxPending),
      ("duplicate_policy", .text o.duplicatePolicy.name) ]⟩

/-- The host when the program is about to start a relay. -/
def ready (o : Options) (n : Network) : Host :=
  let h := host o n
  ((metricsLine? o).elim h h.say).say (settingsLine o)

/-- Starts a relay at once if there is a target. -/
def startTarget (o : Options) (h : Host) : Except RelayError Unit × Host :=
  match o.target with
  | none => (.ok (), h)
  | some _ =>
    let (answer, h) := h.startWith o.template
    (answer.map fun _ => (), h)

/-- Starts the control interface if it is wanted; gives its address. If it cannot be bound, the
relay is stopped again. -/
def startControl (o : Options) (h : Host) : Except RelayError (Option SocketAddress) × Host :=
  if o.controlEnabled then
    match h.serveControl o.controlAddress with
    | .ok (a, h) => (.ok (some a), h)
    | .error e => (.error e, h.stop.2)
  else (.ok none, h.say ⟨.info, "Control API disabled", []⟩)

/-- Serves requests to the control interface, if there is one. -/
def serve (control : Option SocketAddress) (h : Host) (requests : List HttpRequest) : Host :=
  match control with
  | none => h
  | some _ => requests.foldl (fun h request => (h.respond request).2) h

/-- The end of a run: the control interface is closed and the relay stopped. -/
def finish (control : Option SocketAddress) (h : Host) : Host :=
  let h :=
    control.elim h fun a =>
      { h with network := h.network.release a }.say ⟨.debug, "Control API stopped", []⟩
  let status := h.status
  let (stop, h) := h.stop
  let h :=
    match stop with
    | .stopped =>
      h.say ⟨.info, "Proxy stopped at exit", [("downstream_connected", .flag status.deviceUp)]⟩
    | .notRunning => h
  h.say ⟨.info, "Run complete", []⟩

/-- A crash ends the process at once; only without a control interface is the relay stopped, because
then nobody else holds on to it. -/
def crash (control : Option SocketAddress) (h : Host) : Host :=
  match control with
  | none => h.stop.2
  | some _ => h

/-- The main part of a run, after everything has been started; `service` is what happens until its
time is over. -/
def runStarted (o : Options) (control : Option SocketAddress) (service : Host → Host) (h : Host) :
    RunEnd × Host :=
  let h :=
    if o.target.isNone ∧ control.isNone then
      h.say ⟨.warn, "No --target and no control API; nothing will ever be proxied", []⟩
    else h
  let h := h.say ⟨.info, "modbus-proxy running", []⟩
  match o.runSeconds with
  | none => (.completed, finish control (service h))
  | some seconds =>
    if clockEnd ≤ h.network.system.uptime + seconds then (.crashed, crash control h)
    else
      let h := h.say ⟨.info, "Running for limited duration", [("seconds", .number seconds)]⟩
      (.completed, finish control (service h))

/-- A run of the program on a network, whatever happens `before` the start of a relay, `meanwhile`
between that and the start of the control interface, and to the `service` of what has been
started. -/
def runWith (o : Options) (n : Network) (before meanwhile : Host → Host)
    (service : Option SocketAddress → Host → Host) : RunEnd × Host :=
  match startTarget o (before (ready o n)) with
  | (.error e, h) => (.failed e, h)
  | (.ok (), h) =>
    match startControl o (meanwhile h) with
    | (.error e, h) => (.failed e, h)
    | (.ok control, h) => runStarted o control (service control) h

/-- A run of the program on a network, with the requests that its control interface gets before the
run is over. The metrics server is bound at once. -/
def run (o : Options) (n : Network) (requests : List HttpRequest) : RunEnd × Host :=
  runWith o n (bindMetrics o) id fun control h => serve control h requests

/-- What a user of the command sees: the exit code, what is printed, and the log. -/
structure Execution where
  exitCode : Nat
  output : Option String
  log : List LogLine

/-- The last line of a log after a failure. -/
def failureLines : RunEnd → List LogLine
  | .failed cause =>
    [⟨.error, "modbus-proxy exiting on startup failure", [("error", .text cause.message)]⟩]
  | .completed | .crashed => []

/-- Executes the command with its options. -/
def execute (o : Options) (n : Network) (requests : List HttpRequest) : Execution :=
  if o.showHelp then ⟨0, some helpText, []⟩
  else
    let (how, h) := run o n requests
    ⟨how.exitCode, none, h.log ++ failureLines how⟩

end Program

end ModbusRelay
