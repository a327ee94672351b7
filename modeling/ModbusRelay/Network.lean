import ModbusRelay.Address.Socket

/-!
What a process has to do with the machine that it runs on.

What comes of binding a listener or opening a connection is up to the operating system, and nothing
is assumed of it: a `System` is any way to answer, and another one may take its place at any time.
The `Network` keeps account of what has come of it. A socket that is closed is off the account at
once.
-/

namespace ModbusRelay

/-- Why a connection does not come about. -/
inductive ConnectFailure where
  | refused (cause : IoError)
  /-- Nothing happens before the time for it is over. -/
  | noAnswer
  deriving DecidableEq, Repr

/-- How the operating system answers. An address is given as a text, which may name a host, and a
listener may leave its port open. -/
structure System where
  /-- Binds a listener when there are these already: gives the address that is bound. -/
  bind : List SocketAddress → String → Except IoError SocketAddress
  /-- Why a new listener does not tell its address, if it does not. -/
  hidesListener : SocketAddress → Option IoError
  /-- Opens a connection when there are these listeners: gives the address of the other end. -/
  connect : List SocketAddress → String → Except ConnectFailure SocketAddress
  /-- Why a new connection does not tell the address of its other end, if it does not: that may have
  broken it off already. -/
  hidesPeer : SocketAddress → Option IoError
  /-- Why there are no workers for a new relay, if so. -/
  deniesWorkers : Option IoError
  /-- The seconds since the machine was switched on. -/
  uptime : Nat

/-- The machine as a process finds it. -/
structure Network where
  system : System
  /-- The addresses somebody listens on, the process or others. -/
  listeners : List SocketAddress := []
  /-- The other ends of the connections that the process has opened. -/
  links : List SocketAddress := []

namespace Network

/-- Starts to listen at the address that a text names. -/
def bind (n : Network) (text : String) : Except IoError (SocketAddress × Network) :=
  match n.system.bind n.listeners text with
  | .error cause => .error cause
  | .ok a => .ok (a, { n with listeners := a :: n.listeners })

/-- A listener is closed. -/
def release (n : Network) (a : SocketAddress) : Network :=
  { n with listeners := n.listeners.erase a }

/-- Connects to the address that a text names. -/
def connect (n : Network) (text : String) : Except ConnectFailure (SocketAddress × Network) :=
  match n.system.connect n.listeners text with
  | .error cause => .error cause
  | .ok a => .ok (a, { n with links := a :: n.links })

/-- A connection is closed. -/
def disconnect (n : Network) (a : SocketAddress) : Network := { n with links := n.links.erase a }

end Network

end ModbusRelay
