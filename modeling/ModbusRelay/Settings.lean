import ModbusRelay.Address.Socket
import ModbusRelay.Pending.Table

/-!
The settings of one relay. Times are in milliseconds.
-/

namespace ModbusRelay

/-- The settings of a relay; the defaults are those of the command. -/
structure Settings where
  /-- Where clients connect to. -/
  listen : String := "0.0.0.0:5020"
  /-- The device that requests are forwarded to. -/
  target : String := "127.0.0.1:502"
  /-- How long the first connection to the device may take. -/
  connectTimeout : Nat := 3000
  /-- The age at which an unanswered request counts as orphaned. -/
  requestTimeout : Nat := 5000
  /-- How many requests may be in flight at once. -/
  maxPending : Nat := 1024
  duplicatePolicy : DuplicatePolicy := .reject
  /-- How many responses wait for one client before further ones are dropped. -/
  clientQueueCapacity : Nat := 32
  deriving DecidableEq, Repr, Inhabited

namespace Settings

/-- The settings with the addresses put together from hosts and ports. -/
def withParts (s : Settings) (listenHost : String) (listenPort : UInt16) (targetHost : String)
    (targetPort : UInt16) : Settings :=
  { s with
    listen := joinHostPort listenHost listenPort
    target := joinHostPort targetHost targetPort }

/-- The table of requests in flight that the settings ask for. -/
def pendingTable (s : Settings) (α : Type) : PendingTable α :=
  .empty s.duplicatePolicy (s.requestTimeout * 1000) s.maxPending

end Settings

end ModbusRelay
