import ModbusRelay.Relay.Basic

/-!
The turns of the workers. A turn is what a worker does at one go: one look at a lock, one read, one
write. `turn? t r` is the relay after turn `t` and the events of the turn; it is `none` if that
worker cannot take that turn now, because it waits, has ended or was never started.

The turns `stop…` are those in which a worker notices that the relay has been cancelled. A worker
that could also go on may do either.
-/

namespace ModbusRelay

/-- One turn of one worker. -/
inductive Turn where
  /-- The router handles the next thing that comes from the device. -/
  | route
  /-- The dispatcher asks the queue for the next request. -/
  | take
  /-- The dispatcher records the request that it holds. -/
  | record
  /-- The dispatcher writes the request that it has recorded. -/
  | write
  /-- A session begins. -/
  | begin (client : Nat)
  /-- A session handles the next thing that comes from its client. -/
  | intake (client : Nat)
  /-- A session takes the next response out of its mailbox. -/
  | fetch (client : Nat)
  /-- A session writes the response that it has in hand. -/
  | deliver (client : Nat)
  /-- The acceptor accepts the next connection, or fails to. -/
  | accept
  /-- The acceptor has rested after a failure. -/
  | resume
  /-- The acceptor ends after all sessions. -/
  | join
  | stopRouter
  | stopDispatcher
  | stopAcceptor
  | stopSession (client : Nat)
  deriving DecidableEq, Repr

namespace Relay

/-- The outcome of a step. -/
abbrev Outcome := Relay × List RelayEvent

/-! ## The router -/

/-- The device is given up: everything in flight is abandoned, and the router ends. -/
def loseDevice (r : Relay) : Outcome :=
  ({ r with deviceUp := false, routing := false, pending := r.pending.clear },
    [.deviceLost, .pending 0]
      ++ (if 0 < r.pending.size then [.abandoned r.pending.size] else []) ++ [.routerStopped])

/-- Gives a response to the mailbox of a client. -/
def offer (r : Relay) (who : Requester) (response : Frame) : Outcome :=
  match r.client? who.client with
  | none => (r, [.recipientGone who response])
  | some c =>
    let (answer, mailbox) := c.mailbox.offer response
    (r.withClient who.client ({ · with mailbox }),
      match answer with
      | .accepted => [.routed who response]
      | .closed => [.recipientGone who response]
      | .full => [.recipientFull who response])

/-- Takes the entry of a response out of the table and passes the response on. -/
def routeResponse (r : Relay) (response : Frame) : Outcome :=
  let (owner, pending) := r.pending.take response.transactionId
  let r := { r with pending }
  match owner with
  | none => (r, [.pending pending.size, .missed response])
  | some who =>
    let (r, events) := r.offer who response
    (r, .pending pending.size :: events)

/-- The router takes a response, or ends when the device has nothing more to say. -/
def route? (r : Relay) : Option Outcome :=
  if r.routing then
    let (next, input) := r.device.input.next
    let r := { r with device := { r.device with input } }
    match next with
    | .waiting => none
    | .item (.frame response) => some (r.routeResponse response)
    | .item (.failed e) =>
      let (r, events) := r.loseDevice
      some (r, .deviceReadFailed e :: events)
    | .finished =>
      let (r, events) := r.loseDevice
      some (r, .deviceClosed :: events)
  else none

/-! ## The dispatcher -/

/-- Goes on waiting for a request; a wait that sleeps makes no turn. -/
def take? (r : Relay) : Option Outcome :=
  if r.dispatcher = .idle ∧ r.queue.waiter ≠ .asleep then
    match r.queue.poll with
    | (some (priority, request), queue) =>
      some ({ r with queue, dispatcher := .holding priority request }, [.taken priority request])
    | (none, queue) => some ({ r with queue }, [])
  else none

/-- The dispatcher records the request that it holds, or drops it when the table refuses it. -/
def record? (r : Relay) : Option Outcome :=
  match r.dispatcher with
  | .holding priority request =>
    let (answer, pending) := r.pending.insert request.transactionId request.requester r.clock
    let r := { r with pending }
    some <|
      match answer with
      | .ok none =>
        ({ r with dispatcher := .writing request },
          [.pending pending.size, .recorded request, .forwarding priority request])
      | .ok (some orphan) =>
        ({ r with dispatcher := .writing request },
          [.pending pending.size, .recorded request, .displaced request orphan,
            .forwarding priority request])
      | .error cause =>
        ({ r with dispatcher := .idle }, [.pending pending.size, .refused request cause])
  | _ => none

/-- A failed write takes the entry back and leaves the device for lost, but the dispatcher goes
on. -/
def write? (r : Relay) : Option Outcome :=
  match r.dispatcher with
  | .writing request =>
    let r := { r with dispatcher := .idle }
    if r.device.writable then
      let device := { r.device with output := r.device.output ++ request.frame.encode }
      some ({ r with device }, [.forwarded request])
    else
      let pending := (r.pending.take request.transactionId).2
      some
        ({ r with pending, deviceUp := false },
          [.forwardFailed request (.io .brokenPipe), .pending pending.size])
  | _ => none

/-! ## The sessions -/

/-- The client of a number, with its name in events, if its connection is in the given phase. -/
def clientIn? (r : Relay) (c : Nat) (phase : SessionPhase) : Option (Requester × Client) :=
  match r.client? c with
  | some client => if client.phase? = some phase then some (⟨c, client.peer⟩, client) else none
  | none => none

/-- A session begins when its connection has been accepted. -/
def begin? (r : Relay) (c : Nat) : Option Outcome := do
  let (who, client) ← r.clientIn? c .accepted
  return (r.withClient c (·.withConnection ({ · with phase := .serving })),
    [.connected who (.ofPeer client.peer)])

/-- The session of a client, with its connection, if it waits for whatever comes next: it serves and
has no response in hand. -/
def freeSession? (r : Relay) (c : Nat) : Option (Requester × Client × Connection) := do
  let (who, client) ← r.clientIn? c .serving
  let connection ← client.connection
  if connection.inHand = none then some (who, client, connection) else none

/-- A session queues the next request of its client, or ends with what the client sends. -/
def intake? (r : Relay) (c : Nat) : Option Outcome := do
  let (who, client, connection) ← r.freeSession? c
  let (next, input) := connection.input.next
  let hungUp := r.withClient c (·.withConnection ({ · with input }) |>.hangUp)
  match next with
  | .waiting => none
  | .item (.frame frame) =>
    let request : Request := ⟨who, frame⟩
    let priority := Priority.ofPeer client.peer
    let r := r.withClient c (·.withConnection ({ · with input }))
    some
      ({ r with queue := r.queue.push priority request },
        [.received priority request, .enqueued priority request])
  | .item (.failed e) => some (hungUp, [.readFailed who e, .disconnected who])
  | .finished => some (hungUp, [.clientEnded who, .disconnected who])

/-- A session takes the next response out of its mailbox. Until it has written it, it reads
nothing. -/
def fetch? (r : Relay) (c : Nat) : Option Outcome := do
  let (_, client, _) ← r.freeSession? c
  let (response, mailbox) ← client.mailbox.take?
  return (r.withClient c fun client =>
      { client with mailbox }.withConnection ({ · with inHand := some response }),
    [])

/-- A session writes the response in hand to its client, or ends when it cannot. -/
def deliver? (r : Relay) (c : Nat) : Option Outcome := do
  let (who, client) ← r.clientIn? c .serving
  let connection ← client.connection
  let response ← connection.inHand
  if connection.writable then
    some
      (r.withClient c (·.withConnection fun k =>
          { k with inHand := none, output := k.output ++ response.encode }),
        [.delivered who response])
  else
    some
      (r.withClient c (·.hangUp),
        [.writeFailed who response.transactionId (.io .brokenPipe), .disconnected who])

/-! ## The acceptor -/

/-- The first client that waits to be accepted. -/
def nextWaiting? (r : Relay) : Option Nat :=
  r.clients.findIdx? (·.phase? == some .waiting)

/-- The acceptor accepts the first client that waits; after a failure it rests. -/
def accept? (r : Relay) : Option Outcome :=
  if r.acceptor = .listening then
    match r.nextWaiting? with
    | none => none
    | some c =>
      if 0 < r.acceptFailures then
        some
          ({ r with acceptor := .resting, acceptFailures := r.acceptFailures - 1 },
            [.acceptFailed .tooManyOpenFiles])
      else some (r.withClient c (·.withConnection ({ · with phase := .accepted })), [])
  else none

/-- The acceptor listens again. -/
def resume? (r : Relay) : Option Outcome :=
  if r.acceptor = .resting then some ({ r with acceptor := .listening }, []) else none

/-! ## Stopping -/

/-- The router stops; what is in flight stays in the table. -/
def stopRouter? (r : Relay) : Option Outcome :=
  if r.cancelled ∧ r.routing then some ({ r with routing := false }, [.routerStopped]) else none

/-- The dispatcher stops while it waits or before it writes. What it has recorded stays recorded.
One that was never started will not be. -/
def stopDispatcher? (r : Relay) : Option Outcome :=
  if r.cancelled then
    match r.dispatcher with
    | .unstarted => some ({ r with dispatcher := .ended }, [])
    | .writing _ => some ({ r with dispatcher := .ended }, [.dispatcherStopped])
    | .idle =>
      some ({ r with dispatcher := .ended, queue := r.queue.cancel.2 }, [.dispatcherStopped])
    | .holding .. | .ended => none
  else none

/-- The acceptor closes the listener. Connections that were not accepted are closed with it. -/
def stopAcceptor? (r : Relay) : Option Outcome :=
  if r.cancelled ∧ r.acceptor = .listening then
    let close (c : Client) : Client := if c.phase? = some .waiting then c.hangUp else c
    some ({ r with acceptor := .joining, clients := r.clients.map close }, [])
  else none

/-- The acceptor ends when no session is left. -/
def join? (r : Relay) : Option Outcome :=
  if r.acceptor = .joining ∧
      ∀ c ∈ r.clients, c.phase? ≠ some .accepted ∧ c.phase? ≠ some .serving then
    some ({ r with acceptor := .closed }, [.acceptorStopped])
  else none

/-- A session stops and hangs up, while it waits or before it writes. Only in the first case it
says why. -/
def stopSession? (r : Relay) (c : Nat) : Option Outcome :=
  if r.cancelled then do
    let (who, client) ← r.clientIn? c .serving
    let connection ← client.connection
    return (r.withClient c (·.hangUp),
      match connection.inHand with
      | none => [.sessionStopping who, .disconnected who]
      | some _ => [.disconnected who])
  else none

/-- One turn of one worker. -/
def turn? (r : Relay) : Turn → Option Outcome
  | .route => r.route?
  | .take => r.take?
  | .record => r.record?
  | .write => r.write?
  | .begin c => r.begin? c
  | .intake c => r.intake? c
  | .fetch c => r.fetch? c
  | .deliver c => r.deliver? c
  | .accept => r.accept?
  | .resume => r.resume?
  | .join => r.join?
  | .stopRouter => r.stopRouter?
  | .stopDispatcher => r.stopDispatcher?
  | .stopAcceptor => r.stopAcceptor?
  | .stopSession c => r.stopSession? c

/-- No worker can take a turn. -/
def Quiet (r : Relay) : Prop := ∀ t, r.turn? t = none

end Relay

end ModbusRelay
