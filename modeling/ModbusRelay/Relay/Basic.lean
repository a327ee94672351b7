import ModbusRelay.Frame.Stream
import ModbusRelay.Pending.Table
import ModbusRelay.Queue.WorkQueue
import ModbusRelay.Relay.Client
import ModbusRelay.Relay.Event
import ModbusRelay.Settings

/-!
The state of one relay between two steps.

Many sessions push requests on one queue; one dispatcher takes them off, records who asked and
writes them to the device; one router reads the device and gives each response to whoever is
recorded for its transaction id. They share the queue and the table of requests in flight, and each
of them goes its way one turn at a time (`Relay.Turn`), in any order.
-/

namespace ModbusRelay

/-- What the dispatcher is doing. -/
inductive Dispatcher where
  | unstarted
  /-- It waits for the next request, or is about to. -/
  | idle
  /-- It has taken a request off the queue. -/
  | holding (priority : Priority) (request : Request)
  /-- It has recorded the request and is about to write it. -/
  | writing (request : Request)
  | ended
  deriving DecidableEq

/-- What the acceptor is doing. -/
inductive Acceptor where
  | listening
  /-- It rests after a failed attempt to accept. -/
  | resting
  /-- It has closed the listener and waits for the sessions to end. -/
  | joining
  /-- There is no acceptor, or no longer one. -/
  | closed
  deriving DecidableEq, Repr

/-- Is there a listener? -/
def Acceptor.hasListener : Acceptor → Bool
  | .listening | .resting => true
  | .joining | .closed => false

/-- The connection to the device. -/
structure DeviceLink where
  /-- What the device has sent and the router has not read. -/
  input : FrameReader := {}
  /-- Can the dispatcher still write to the device? -/
  writable : Bool := true
  /-- All bytes that the device has got. -/
  output : List UInt8 := []
  deriving DecidableEq

/-- A relay between two steps. -/
structure Relay where
  queue : WorkQueue Request := {}
  pending : PendingTable Requester
  /-- The capacity of each mailbox. -/
  mailboxCapacity : Nat
  clients : List Client := []
  device : DeviceLink := {}
  dispatcher : Dispatcher := .unstarted
  /-- Does the router still read the device? -/
  routing : Bool := true
  acceptor : Acceptor := .closed
  /-- How many of the next attempts to accept fail. -/
  acceptFailures : Nat := 0
  /-- Set until the device has been given up. -/
  deviceUp : Bool := true
  cancelled : Bool := false
  clock : Micros := 0
  deriving DecidableEq

namespace Relay

/-- A relay that is connected to its device and has neither a listener nor a dispatcher yet. -/
def ofSettings (s : Settings) : Relay :=
  { pending := s.pendingTable Requester, mailboxCapacity := max s.clientQueueCapacity 1 }

/-- The client of a number. -/
def client? (r : Relay) (c : Nat) : Option Client := r.clients[c]?

/-- Changes one client. -/
def withClient (r : Relay) (c : Nat) (change : Client → Client) : Relay :=
  { r with clients := r.clients.modify c change }

/-- The device sees the end of what comes from the relay. -/
def deviceSeesEnd (r : Relay) : Bool := !r.device.writable || r.dispatcher == .ended

@[simp]
theorem client?_withClient (r : Relay) (c d : Nat) (change : Client → Client) :
    (r.withClient c change).client? d =
      if c = d then (r.client? d).map change else r.client? d := by
  simp only [client?, withClient, List.getElem?_modify]
  split <;> simp

end Relay

end ModbusRelay
