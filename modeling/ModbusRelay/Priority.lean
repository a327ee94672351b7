import ModbusRelay.Address.Socket

/-!
The two scheduling classes. Requests from the machine itself go ahead of all others.
-/

namespace ModbusRelay

/-- The class of a request. -/
inductive Priority where
  | high
  | normal
  deriving DecidableEq, Repr

namespace Priority

/-- Local controllers have high priority, remote pollers normal priority. -/
def ofPeer (peer : SocketAddress) : Priority :=
  if peer.ip.isLoopback then .high else .normal

/-- The name of a class in logs and metrics. -/
def label : Priority → String
  | .high => "high"
  | .normal => "normal"

end Priority

end ModbusRelay
