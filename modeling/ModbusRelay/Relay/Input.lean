import ModbusRelay.Relay.Turn

/-!
What the world does to a relay: clients come, send and leave, the device answers and goes away,
sockets break, time passes, and the owner of the relay cancels it.

An input only changes what the workers will find on their next turns. Together the inputs and the
turns are the moves of a relay, and a run is a list of moves.
-/

namespace ModbusRelay

/-- One thing that the world does. -/
inductive Input where
  /-- A client that is a mailbox only. -/
  | attach (peer : SocketAddress)
  /-- A client whose session begins without a listener. -/
  | serve (peer : SocketAddress)
  /-- A client connects to the listener; nothing happens if there is none. -/
  | dial (peer : SocketAddress)
  /-- The next attempt to accept a connection will fail. -/
  | failAccept
  | clientSends (client : Nat) (bytes : List UInt8)
  /-- Nothing more comes from the client: it ends what it sends, or reading from it fails. -/
  | clientEnds (client : Nat) (how : ReadEnd)
  /-- The client is gone. -/
  | clientCloses (client : Nat)
  /-- The session cannot write to its client any more. -/
  | clientBreaks (client : Nat)
  /-- A request is put on the queue without a session. -/
  | push (client : Nat) (priority : Priority) (frame : Frame)
  /-- A client is recorded without a request. -/
  | register (client : Nat) (id : UInt16)
  /-- A client takes up to so many responses out of its mailbox. -/
  | collect (client : Nat) (count : Nat)
  /-- The queue is emptied. -/
  | drain
  | deviceSends (bytes : List UInt8)
  /-- Nothing more comes from the device: it ends what it sends, or reading from it fails. It still
  receives. -/
  | deviceEnds (how : ReadEnd)
  /-- The dispatcher cannot write to the device any more. -/
  | deviceBreaks
  | startDispatcher
  | wait (time : Micros)
  | cancel
  deriving DecidableEq

namespace Relay

/-- A new client, with the number it gets. -/
def addClient (r : Relay) (peer : SocketAddress) (connection : Option Connection) : Nat × Relay :=
  (r.clients.length,
    { r with clients := r.clients ++ [⟨peer, { capacity := r.mailboxCapacity }, connection⟩] })

/-- Changes what a client has sent; nothing reaches a session that is over. -/
def withInput (r : Relay) (c : Nat) (change : FrameReader → FrameReader) : Relay :=
  r.withClient c fun client =>
    client.withConnection fun k =>
      if k.phase = .ended then k else { k with input := change k.input }

/-- Puts a request of a client on the queue. -/
def push (r : Relay) (c : Nat) (priority : Priority) (frame : Frame) : Outcome :=
  match r.client? c with
  | none => (r, [])
  | some client =>
    let request : Request := ⟨⟨c, client.peer⟩, frame⟩
    ({ r with queue := r.queue.push priority request }, [.enqueued priority request])

/-- Records a client under a transaction id; gives what the table answers. -/
def register (r : Relay) (c : Nat) (id : UInt16) :
    Except PendingError (Option Requester) × Relay :=
  match r.client? c with
  | none => (.ok none, r)
  | some client =>
    let (answer, pending) := r.pending.insert id ⟨c, client.peer⟩ r.clock
    (answer, { r with pending })

/-- The responses that a client takes out of its mailbox. -/
def collect (r : Relay) (c : Nat) (count : Nat) : List Frame × Relay :=
  match r.client? c with
  | none => ([], r)
  | some client =>
    let (frames, mailbox) := client.mailbox.takeUpTo count
    (frames, r.withClient c ({ · with mailbox }))

/-- Empties the queue. -/
def drain (r : Relay) : List Request × Relay :=
  let (requests, queue) := r.queue.drain
  (requests, { r with queue })

/-- Nothing reaches a router that has ended. -/
def withDeviceInput (r : Relay) (change : FrameReader → FrameReader) : Relay :=
  if r.routing then { r with device := { r.device with input := change r.device.input } } else r

/-- The relay after an input, and the events that the input itself causes. -/
def apply (r : Relay) : Input → Outcome
  | .attach peer => ((r.addClient peer none).2, [])
  | .serve peer => ((r.addClient peer (some { phase := .accepted })).2, [])
  | .dial peer =>
    if r.acceptor.hasListener then ((r.addClient peer (some { phase := .waiting })).2, [])
    else (r, [])
  | .failAccept => ({ r with acceptFailures := r.acceptFailures + 1 }, [])
  | .clientSends c bytes => (r.withInput c (·.feed bytes), [])
  | .clientEnds c how => (r.withInput c (·.finish how), [])
  | .clientCloses c =>
    (r.withClient c fun client =>
        match client.connection with
        | none => client.hangUp
        | some _ =>
          client.withConnection fun k =>
            if k.phase = .ended then k
            else { k with input := k.input.finish .closed, writable := false },
      [])
  | .clientBreaks c => (r.withClient c (·.withConnection ({ · with writable := false })), [])
  | .push c priority frame => r.push c priority frame
  | .register c id => ((r.register c id).2, [])
  | .collect c count => ((r.collect c count).2, [])
  | .drain => (r.drain.2, [])
  | .deviceSends bytes => (r.withDeviceInput (·.feed bytes), [])
  | .deviceEnds how => (r.withDeviceInput (·.finish how), [])
  | .deviceBreaks => ({ r with device := { r.device with writable := false } }, [])
  | .startDispatcher =>
    (if r.dispatcher = .unstarted then { r with dispatcher := .idle } else r, [])
  | .wait time => ({ r with clock := r.clock + time }, [])
  | .cancel => ({ r with cancelled := true }, [])

end Relay

/-- A move of a relay: something from outside, or a turn of a worker. -/
inductive Move where
  | input (i : Input)
  | turn (t : Turn)
  deriving DecidableEq

namespace Relay

/-- The relay after a move. A turn that its worker cannot take changes nothing. -/
def move (r : Relay) : Move → Outcome
  | .input i => r.apply i
  | .turn t => (r.turn? t).getD (r, [])

/-- The relay after a list of moves, and the events in between, oldest first. -/
def run (r : Relay) : List Move → Outcome
  | [] => (r, [])
  | m :: ms =>
    let (r, events) := r.move m
    let (r, later) := run r ms
    (r, events ++ later)

@[simp]
theorem run_nil (r : Relay) : r.run [] = (r, []) := rfl

@[simp]
theorem run_append (r : Relay) (ms ns : List Move) :
    r.run (ms ++ ns) =
      (((r.run ms).1.run ns).1, (r.run ms).2 ++ ((r.run ms).1.run ns).2) := by
  induction ms generalizing r with
  | nil => rfl
  | cons m ms ih => simp [run, ih]

end Relay

end ModbusRelay
