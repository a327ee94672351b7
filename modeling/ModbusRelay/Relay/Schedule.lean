import ModbusRelay.Relay.Input

/-!
One fixed order of turns, in which a relay comes to rest after an input.

The workers are asked in a fixed order and the first that can take a turn takes it: those that have
to stop, then the router, then the sessions with the responses they have, then the sessions with
what their clients sent, and last the dispatcher and the acceptor. So the router handles all that
the device sent at once before any session takes a response out of its mailbox.

A device may answer what it gets: `answer` gives the bytes that it sends back at once.
-/

namespace ModbusRelay

namespace Relay

/-- The turns in the order in which they are tried. -/
def turns (r : Relay) : List Turn :=
  let each (turn : Nat → Turn) : List Turn := (List.range r.clients.length).map turn
  [.stopRouter, .stopDispatcher, .stopAcceptor] ++ each .stopSession ++ [.route] ++ each .deliver
    ++ each .fetch ++ each .begin ++ each .intake
    ++ [.take, .record, .write, .resume, .accept, .join]

/-- The first turn that can be taken. -/
def nextTurn? (r : Relay) : Option Outcome := r.turns.findSome? r.turn?

/-- The bytes that the device has got since an earlier state. -/
def deviceGotSince (r earlier : Relay) : List UInt8 :=
  r.device.output.drop earlier.device.output.length

/-- Takes turns until none can be taken, but at most so many. -/
def settleWithin (answer : List UInt8 → List UInt8) : Nat → Relay → Outcome
  | 0, r => (r, [])
  | fuel + 1, r =>
    match r.nextTurn? with
    | none => (r, [])
    | some (next, events) =>
      let (next, more) := next.apply (.deviceSends (answer (next.deviceGotSince r)))
      let (rest, later) := settleWithin answer fuel next
      (rest, events ++ more ++ later)

/-- An upper bound for the turns that can be taken before something comes from outside, for a
device that sends back at most as much as it gets. Each byte is read at most twice, and seven of
them make a frame, which takes seven turns; a failure to accept takes two; each worker has a few
turns besides. -/
def workload (r : Relay) : Nat :=
  let unread := r.clients.flatMap fun c => (c.connection.map (·.input.buffer)).getD []
  let queued := r.queue.lanes.toList.flatMap (·.frame.bytes)
  let responses := r.clients.flatMap (·.mailbox.frames)
  4 * (unread.length + queued.length + r.device.input.buffer.length) + 2 * responses.length
    + 8 * r.clients.length + 2 * r.acceptFailures + 4 * maxFrameSize + 32

/-- Takes turns until the relay is at rest, with a device that answers. -/
def settleWith (answer : List UInt8 → List UInt8) (r : Relay) : Outcome :=
  settleWithin answer r.workload r

/-- Takes turns until the relay is at rest, with a device that keeps silent. -/
def settle (r : Relay) : Outcome := r.settleWith fun _ => []

/-- An input, and the turns it leads to. -/
def after (r : Relay) (i : Input) : Outcome :=
  let (r, events) := r.apply i
  let (r, later) := r.settle
  (r, events ++ later)

end Relay

end ModbusRelay
