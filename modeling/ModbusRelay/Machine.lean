import ModbusRelay.Network

/-!
One kind of machine, on which the command runs: it has IPv4 only, it knows its own addresses and
some names, and every socket tells its addresses.

A listener on the unspecified address 0.0.0.0 listens on every address of the machine, so it is in
conflict with every other listener on its port. A port that is left open becomes the next free one
of those that are set aside for that.
-/

namespace ModbusRelay

/-- The address 0.0.0.0, which stands for every address of the machine. -/
def IpAddress.unspecified : IpAddress := .v4 0 0 0 0

/-- A machine and its surroundings. -/
structure Machine where
  /-- Is this an address of the machine? -/
  isLocal : IpAddress → Bool
  /-- Do attempts to connect to this address hang? -/
  hangs : SocketAddress → Bool := fun _ => false
  /-- The address of a host that is given by its name. -/
  lookup : String → Option IpAddress := fun _ => none
  /-- The seconds since it was switched on. -/
  uptime : Nat := 0

namespace Machine

variable (m : Machine)

/-- The address that a text names. -/
def resolve (text : String) : Except IoError SocketAddress :=
  match SocketAddress.parse? text with
  | some address => .ok address
  | none =>
    match splitLastColon text.toList with
    | none => .error .invalidSocketAddress
    | some (host, port) =>
      match readNat? maxPort (String.ofList port) with
      | none => .error .invalidPort
      | some n =>
        match m.lookup (String.ofList host) <|> IpAddress.ofHost? (String.ofList host) with
        | some ip => .ok ⟨ip, n.toUInt16⟩
        | none => .error .unknownName

/-- Does a listener on `l` receive what is sent to `a`? -/
def reaches (l a : SocketAddress) : Bool :=
  l.port == a.port && (l.ip == a.ip || l.ip == .unspecified)

/-- Can two addresses not have a listener each? -/
def conflict (a b : SocketAddress) : Bool := reaches a b || reaches b a

/-- The addresses that a new listener may get, the first one that is free: its own, or one for each
listener that could be in its way and one more. -/
def candidates (listeners : List SocketAddress) (a : SocketAddress) : List SocketAddress :=
  if a.port = 0 then
    (List.range (listeners.length + 1)).map fun i => { a with port := (49152 + i).toUInt16 }
  else [a]

/-- Binds an address that is the machine's own and free. -/
def bind (listeners : List SocketAddress) (text : String) : Except IoError SocketAddress :=
  match m.resolve text with
  | .error cause => .error cause
  | .ok a =>
    match a.ip with
    | .v6 .. => .error .addressFamilyNotSupported
    | .v4 .. =>
      if a.ip != .unspecified && !m.isLocal a.ip then .error .addressNotAvailable
      else
        match (candidates listeners a).find? fun b => !listeners.any (conflict b) with
        | none => .error .addressInUse
        | some b => .ok b

/-- Connects to an address. The unspecified one means the machine itself. -/
def connect (listeners : List SocketAddress) (text : String) :
    Except ConnectFailure SocketAddress :=
  match m.resolve text with
  | .error cause => .error (.refused cause)
  | .ok a =>
    match a.ip with
    | .v6 .. => .error (.refused .addressFamilyNotSupported)
    | .v4 .. =>
      let there := if a.ip = .unspecified then { a with ip := .v4 127 0 0 1 } else a
      if m.hangs a then .error .noAnswer
      else if a.ip != .unspecified && !m.isLocal a.ip then .error (.refused .networkUnreachable)
      else if listeners.any (reaches · there) then .ok a
      else .error (.refused .connectionRefused)

/-- How the machine answers. -/
def system : System where
  bind := m.bind
  hidesListener _ := none
  connect := m.connect
  hidesPeer _ := none
  deniesWorkers := none
  uptime := m.uptime

end Machine

end ModbusRelay
