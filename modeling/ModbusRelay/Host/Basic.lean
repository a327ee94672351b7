import ModbusRelay.Instance
import ModbusRelay.Metrics.Basic

/-!
A process that owns at most one relay instance and starts and stops it on demand.

Starting while an instance runs leaves that instance alone. Stopping takes two steps: the instance
is taken out of its slot first (`beginStop`), and shut down afterwards (`finishStop`), so other
calls may come in between. Metrics and log belong to the process and not to the instance, and so does
the metrics server.
-/

namespace ModbusRelay

/-- A process on its network. -/
structure Host where
  network : Network
  /-- The settings of new instances; their addresses may be replaced. -/
  template : Settings := {}
  /-- The instance in the slot. -/
  active : Option Instance := none
  /-- Instances that are out of the slot and not shut down yet. -/
  closing : List Instance := []
  metrics : Metrics := {}
  log : List LogLine := []
  /-- Where the metrics server listens, once it does. -/
  metricsServer : Option SocketAddress := none

/-- What a start that does not fail comes to. -/
inductive StartStatus where
  | started
  | alreadyRunning
  deriving DecidableEq, Repr

/-- The name of the outcome in answers. -/
def StartStatus.name : StartStatus → String
  | .started => "started"
  | .alreadyRunning => "already_running"

/-- What a stop comes to. -/
inductive StopStatus where
  | stopped
  | notRunning
  deriving DecidableEq, Repr

/-- The name of the outcome in answers. -/
def StopStatus.name : StopStatus → String
  | .stopped => "stopped"
  | .notRunning => "not_running"

/-- What the process tells about its instance. -/
structure HostStatus where
  running : Bool
  deviceUp : Bool
  /-- Where the running instance listens, and its device. -/
  addresses : Option (SocketAddress × SocketAddress)
  deriving DecidableEq, Repr

namespace Host

/-- Adds a line to the log. -/
def say (h : Host) (line : LogLine) : Host := { h with log := h.log ++ [line] }

/-- Takes note of events. -/
def observe (h : Host) (events : List RelayEvent) : Host :=
  { h with
    metrics := h.metrics.observeAll events
    log := h.log ++ events.filterMap RelayEvent.logLine? }

/-- Shuts an instance down, which closes its sockets. -/
def shutDown (h : Host) (i : Instance) : Host :=
  let (_, events) := i.shutdown
  { h with network := i.leave h.network }.observe events

/-- Launches an instance in the empty slot. Its workers come first, and then the network. -/
def launch (h : Host) (s : Settings) : Except RelayError StartStatus × Host :=
  match h.network.system.deniesWorkers with
  | some cause => (.error (.workers cause), h)
  | none =>
    match Instance.launch s h.network with
    | (.error e, network) => (.error e, { h with network })
    | (.ok i, network) =>
      (.ok .started, { h with network, active := some i }.observe [i.startedEvent s])

/-- Starts an instance with these settings, unless one is running. An instance in the slot that is
not running is shut down first. -/
def startWith (h : Host) (s : Settings) : Except RelayError StartStatus × Host :=
  match h.active with
  | none => h.launch s
  | some i =>
    if i.isRunning then
      (.ok .alreadyRunning,
        h.say ⟨.info, "Proxy already running", [("listen_addr", .text s.listen)]⟩)
    else ({ h with active := none }.shutDown i).launch s

/-- Starts an instance at these addresses with the settings of the template. -/
def start (h : Host) (listenHost : String) (listenPort : UInt16) (targetHost : String)
    (targetPort : UInt16) : Except RelayError StartStatus × Host :=
  h.startWith (h.template.withParts listenHost listenPort targetHost targetPort)

/-- The first step of stopping: the instance is taken out of its slot. -/
def beginStop (h : Host) : StopStatus × Host :=
  match h.active with
  | none => (.notRunning, h)
  | some i => (.stopped, { h with active := none, closing := h.closing ++ [i] })

/-- The second step of stopping: one of the instances that were taken out is shut down. -/
def finishStop (h : Host) (k : Nat) : Host :=
  match h.closing[k]? with
  | none => h
  | some i => { h with closing := h.closing.eraseIdx k }.shutDown i

/-- Stops the instance. -/
def stop (h : Host) : StopStatus × Host :=
  let (status, taken) := h.beginStop
  match status with
  | .notRunning => (status, taken)
  | .stopped => (status, taken.finishStop h.closing.length)

/-- The status of the instance in the slot; without one nothing runs. -/
def status (h : Host) : HostStatus :=
  match h.active with
  | none => ⟨false, false, none⟩
  | some i =>
    if i.isRunning then ⟨true, i.deviceUp, some (i.listen, i.target)⟩ else ⟨false, false, none⟩

/-- Lets the relay of the instance in the slot make moves; without one nothing happens. -/
def withRelay (h : Host) (moves : Relay → Relay.Outcome) : Host :=
  match h.active with
  | none => h
  | some i =>
    let (relay, events) := moves i.relay
    { h with active := some { i with relay } }.observe events

end Host

end ModbusRelay
