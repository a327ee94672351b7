import ModbusRelay.Network
import ModbusRelay.Relay.Schedule

/-!
One instance of the relay on the network, from its launch to its end.

A launch first binds the listener and then connects to the device, and it asks both sockets for
their addresses. Each of these steps can fail, and then what has been opened before is given back,
so a failed launch leaves nothing behind. There are two ways to end an instance: `shutdown` lets
every worker end and clears what is left over, `abort` drops everything where it stands. Whoever
launched an instance has a `Handle` on it, by which it is ended once.
-/

namespace ModbusRelay

/-- A relay with the addresses of its sockets. -/
structure Instance where
  /-- Where it listens. -/
  listen : SocketAddress
  /-- The other end of its connection to the device. -/
  target : SocketAddress
  relay : Relay

namespace Instance

/-- Binds the listener that the settings ask for and gives its address. One that does not tell it is
closed again. -/
def openListener (s : Settings) (n : Network) : Except RelayError SocketAddress × Network :=
  match n.bind s.listen with
  | .error cause => (.error (.bind s.listen cause), n)
  | .ok (listen, bound) =>
    match bound.system.hidesListener listen with
    | some cause => (.error (.io cause), bound.release listen)
    | none => (.ok listen, bound)

/-- Connects to the device that the settings name and gives its address. An attempt that hangs is
given up after the timeout, and a connection that does not tell its other end is closed again. -/
def connectDevice (s : Settings) (n : Network) : Except RelayError SocketAddress × Network :=
  match n.connect s.target with
  | .error (.refused cause) => (.error (.connect s.target cause), n)
  | .error .noAnswer => (.error (.connectTimeout s.target s.connectTimeout), n)
  | .ok (target, linked) =>
    match linked.system.hidesPeer target with
    | some cause => (.error (.io cause), linked.disconnect target)
    | none => (.ok target, linked)

/-- A relay with its listener and its dispatcher. -/
def freshRelay (s : Settings) : Relay :=
  { Relay.ofSettings s with dispatcher := .idle, acceptor := .listening }

/-- Starts an instance. Gives the network afterwards, whether it came up or not. -/
def launch (s : Settings) (n : Network) : Except RelayError Instance × Network :=
  match openListener s n with
  | (.error e, n) => (.error e, n)
  | (.ok listen, n) =>
    match connectDevice s n with
    | (.error e, n) => (.error e, n.release listen)
    | (.ok target, n) => (.ok ⟨listen, target, freshRelay s⟩, n)

/-- The network after an instance has closed its listener and its connection. -/
def leave (i : Instance) (n : Network) : Network := (n.release i.listen).disconnect i.target

/-- The event of a launch. -/
def startedEvent (i : Instance) (s : Settings) : RelayEvent :=
  .started i.listen i.target s.duplicatePolicy

/-- Has the instance not been stopped? -/
def isRunning (i : Instance) : Bool := !i.relay.cancelled

/-- Has neither reading from the device nor writing to it failed yet? -/
def deviceUp (i : Instance) : Bool := i.relay.deviceUp

/-- What is left over after every worker has ended is thrown away. -/
def clearRelay (r : Relay) : Relay.Outcome :=
  let (requests, cleared) := r.drain
  ({ cleared with pending := cleared.pending.clear },
    (if requests.isEmpty then [] else [.discarded requests.length]) ++ [.pending 0])

/-- Stops every worker, waits for them to end and clears up. -/
def shutdown (i : Instance) : Instance × List RelayEvent :=
  let (stopped, events) := i.relay.after .cancel
  let (cleared, later) := clearRelay stopped
  ({ i with relay := cleared },
    [.stopping i.listen] ++ events ++ later ++ [.stopped i.listen])

/-- Ends everything where it stands: sockets close, and nobody gets to say so. -/
def abort (i : Instance) : Instance :=
  { i with
    relay :=
      { i.relay with
        cancelled := true
        dispatcher := .ended
        routing := false
        acceptor := .closed
        clients := i.relay.clients.map fun c => if c.connection.isSome then c.hangUp else c } }

end Instance

/-- An instance, and whether it has been ended. -/
structure Handle where
  held : Instance
  isOver : Bool := false

namespace Handle

/-- Shuts the instance down; later calls do nothing. -/
def stop (k : Handle) : Handle × List RelayEvent :=
  if k.isOver then (k, [])
  else
    let (held, events) := k.held.shutdown
    ({ held, isOver := true }, events)

/-- Ends the instance where it stands; later calls do nothing. -/
def abort (k : Handle) : Handle := if k.isOver then k else { held := k.held.abort, isOver := true }

/-- Does the instance run? -/
def isRunning (k : Handle) : Bool := !k.isOver && k.held.isRunning

/-- Does the instance run, and has neither reading from the device nor writing to it failed yet? -/
def deviceUp (k : Handle) : Bool := !k.isOver && k.held.deviceUp

end Handle

end ModbusRelay
