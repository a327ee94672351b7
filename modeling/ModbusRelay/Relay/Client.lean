import ModbusRelay.Frame.Stream
import ModbusRelay.Relay.Request

/-!
Clients as the relay sees them: a mailbox for the responses, and the connection of its session.

The mailbox is the only thing the router touches. It takes a response only while it is open and
not full, and never makes the router wait; the session empties it.
-/

namespace ModbusRelay

/-- A queue of responses with a limit, which can be closed. -/
structure Mailbox where
  capacity : Nat
  frames : List Frame := []
  isOpen : Bool := true
  deriving DecidableEq

namespace Mailbox

/-- What becomes of a response that is offered. -/
inductive Offer where
  | accepted
  | closed
  | full
  deriving DecidableEq, Repr

/-- Puts a response in, if it can. -/
def offer (m : Mailbox) (f : Frame) : Offer × Mailbox :=
  if m.isOpen then
    if m.frames.length < m.capacity then (.accepted, { m with frames := m.frames ++ [f] })
    else (.full, m)
  else (.closed, m)

/-- Takes the oldest response out. -/
def take? (m : Mailbox) : Option (Frame × Mailbox) :=
  match m.frames with
  | f :: frames => some (f, { m with frames })
  | [] => none

/-- Takes up to `count` responses out. -/
def takeUpTo (m : Mailbox) (count : Nat) : List Frame × Mailbox :=
  (m.frames.take count, { m with frames := m.frames.drop count })

/-- Closes the mailbox; what is in it is lost. -/
def close (m : Mailbox) : Mailbox := { m with frames := [], isOpen := false }

end Mailbox

/-- How far a connection has come. -/
inductive SessionPhase where
  /-- The listener has not accepted it yet. -/
  | waiting
  /-- Accepted, and its session has not begun. -/
  | accepted
  | serving
  | ended
  deriving DecidableEq, Repr

/-- The connection of a session. -/
structure Connection where
  phase : SessionPhase
  /-- What the client has sent and the session has not read. -/
  input : FrameReader := {}
  /-- The response that the session has taken out of the mailbox and is about to write. -/
  inHand : Option Frame := none
  /-- Can the session still write to the client? -/
  writable : Bool := true
  /-- All bytes that the client has got. -/
  output : List UInt8 := []
  deriving DecidableEq

/-- A client: its address, its mailbox and its connection. -/
structure Client where
  peer : SocketAddress
  mailbox : Mailbox
  /-- A client without a connection is a mailbox only. -/
  connection : Option Connection
  deriving DecidableEq

namespace Client

/-- How far the connection has come, if there is one. -/
def phase? (c : Client) : Option SessionPhase := c.connection.map (·.phase)

/-- Changes the connection, if there is one. -/
def withConnection (c : Client) (change : Connection → Connection) : Client :=
  { c with connection := c.connection.map change }

/-- All bytes that the client has got. -/
def output (c : Client) : List UInt8 := (c.connection.map (·.output)).getD []

/-- Does the client see the end of what comes from the relay? -/
def seesEnd (c : Client) : Bool :=
  match c.connection with
  | some k => k.phase == .ended || !k.writable
  | none => false

/-- The session is over: the connection is closed, and so is the mailbox. A response in hand is
lost. -/
def hangUp (c : Client) : Client :=
  { c with
    mailbox := c.mailbox.close
    connection := c.connection.map fun k => { k with phase := .ended, inHand := none } }

end Client

end ModbusRelay
