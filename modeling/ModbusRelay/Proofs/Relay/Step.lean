import ModbusRelay.Proofs.Relay.Turns

/-!
What one move of a relay can do to the parts that its workers share.

`Step r m r' es` lists the cases: how move `m` takes the queue, the table, the device, the
dispatcher and the router of `r` to those of `r'`, and the events `es` that go with it. Most moves
belong to the world, the acceptor or a session and leave all five alone (`Step.aside`).
`step_move` says that every move is one of these cases. Invariants of the five parts are proved by
cases on `Step`, and no turn is opened again for them.

What the world, the acceptor and a session tell, what the router tells when it passes a response on,
and what it tells when the device is lost, are events of three kinds (`isAside`, `isPassing`,
`isLoss`); what such a move says nothing about is read off the kind.
-/

namespace ModbusRelay

namespace RelayEvent

/-- Events of the acceptor and of sessions that push nothing on the queue. -/
def isAside : RelayEvent → Bool
  | .acceptFailed _ | .acceptorStopped | .connected .. | .disconnected _ | .readFailed ..
  | .clientEnded _ | .sessionStopping _ | .delivered .. | .writeFailed .. => true
  | _ => false

/-- Events of a response that the router passes on. -/
def isPassing : RelayEvent → Bool
  | .pending _ | .routed .. | .missed _ | .recipientGone .. | .recipientFull .. => true
  | _ => false

/-- Events of the loss of the device. -/
def isLoss : RelayEvent → Bool
  | .deviceClosed | .deviceReadFailed _ | .deviceLost | .pending _ | .abandoned _
  | .routerStopped => true
  | _ => false

end RelayEvent

namespace Relay

/-- What becomes of a response, given whom the table names for it. -/
def Verdict (owner : Option Requester) (f : Frame) (e : RelayEvent) : Prop :=
  match owner with
  | none => e = .missed f
  | some who => e = .routed who f ∨ e = .recipientGone who f ∨ e = .recipientFull who f

theorem Verdict.isPassing {owner : Option Requester} {f : Frame} {e : RelayEvent}
    (h : Verdict owner f e) (n : Nat) : ∀ e' ∈ [.pending n, e], e'.isPassing := by
  unfold Verdict at h
  split at h
  · simp [h, RelayEvent.isPassing]
  · rcases h with rfl | rfl | rfl <;> simp [RelayEvent.isPassing]

theorem isLoss_loseDevice (r : Relay) {cause : RelayEvent}
    (told : cause = .deviceClosed ∨ ∃ e, cause = .deviceReadFailed e) :
    ∀ e ∈ cause :: r.loseDevice.2, e.isLoss := by
  unfold loseDevice
  rcases told with rfl | ⟨e, rfl⟩ <;> split <;> simp [RelayEvent.isLoss]

/-- The cases of a move, with the relay and the events that it leads to. -/
inductive Step (r : Relay) : Move → Relay → List RelayEvent → Prop where
  | aside {m : Move} {es : List RelayEvent} (clients : List Client) (acceptor : Acceptor)
      (acceptFailures : Nat) (cancelled : Bool) (clock : Micros)
      (silent : ∀ bytes, m ≠ .input (.deviceSends bytes)) (quiet : ∀ e ∈ es, e.isAside)
      (later : r.clock ≤ clock) :
      Step r m { r with clients, acceptor, acceptFailures, cancelled, clock } es
  | pushed {c : Nat} {p : Priority} {f : Frame} (peer : SocketAddress) :
      Step r (.input (.push c p f)) { r with queue := r.queue.push p ⟨⟨c, peer⟩, f⟩ }
        [.enqueued p ⟨⟨c, peer⟩, f⟩]
  | received {c : Nat} (peer : SocketAddress) (f : Frame) (clients : List Client) :
      Step r (.turn (.intake c))
        { r with clients, queue := r.queue.push (.ofPeer peer) ⟨⟨c, peer⟩, f⟩ }
        [.received (.ofPeer peer) ⟨⟨c, peer⟩, f⟩, .enqueued (.ofPeer peer) ⟨⟨c, peer⟩, f⟩]
  | drained : Step r (.input .drain) { r with queue := r.queue.drain.2 } []
  | registered {c : Nat} {id : UInt16} (peer : SocketAddress) :
      Step r (.input (.register c id))
        { r with pending := (r.pending.insert id ⟨c, peer⟩ r.clock).2 } []
  | deviceSent {bytes : List UInt8} :
      Step r (.input (.deviceSends bytes)) (r.withDeviceInput (·.feed bytes)) []
  | deviceEnded {how : ReadEnd} :
      Step r (.input (.deviceEnds how)) (r.withDeviceInput (·.finish how)) []
  | deviceBroke :
      Step r (.input .deviceBreaks) { r with device := { r.device with writable := false } } []
  | started (unstarted : r.dispatcher = .unstarted) :
      Step r (.input .startDispatcher) { r with dispatcher := .idle } []
  | routed {f : Frame} {input : FrameReader} {e : RelayEvent} (clients : List Client)
      (routing : r.routing = true) (next : r.device.input.next = (.item (.frame f), input))
      (verdict : Verdict (r.pending.take f.transactionId).1 f e) :
      Step r (.turn .route)
        { r with
          device := { r.device with input }
          pending := (r.pending.take f.transactionId).2
          clients }
        [.pending (r.pending.take f.transactionId).2.size, e]
  | lost {cause : RelayEvent} (routing : r.routing = true)
      (told : cause = .deviceClosed ∨ ∃ e, cause = .deviceReadFailed e) :
      Step r (.turn .route) r.loseDevice.1 (cause :: r.loseDevice.2)
  | slept {queue : WorkQueue Request} (idle : r.dispatcher = .idle)
      (empty : r.queue.lanes.pop? = none) (same : queue.lanes = r.queue.lanes)
      (asleep : queue.waiter = .asleep) : Step r (.turn .take) { r with queue } []
  | taken {p : Priority} {q : Request} {queue : WorkQueue Request} (idle : r.dispatcher = .idle)
      (pop : r.queue.lanes.pop? = some ((p, q), queue.lanes)) (absent : queue.waiter = .absent) :
      Step r (.turn .take) { r with queue, dispatcher := .holding p q } [.taken p q]
  | recorded {p : Priority} {q : Request} {pending : PendingTable Requester}
      (holding : r.dispatcher = .holding p q)
      (answer : r.pending.insert q.transactionId q.requester r.clock = (.ok none, pending)) :
      Step r (.turn .record) { r with pending, dispatcher := .writing q }
        [.pending pending.size, .recorded q, .forwarding p q]
  | displaced {p : Priority} {q : Request} {orphan : Requester} {pending : PendingTable Requester}
      (holding : r.dispatcher = .holding p q)
      (answer :
        r.pending.insert q.transactionId q.requester r.clock = (.ok (some orphan), pending)) :
      Step r (.turn .record) { r with pending, dispatcher := .writing q }
        [.pending pending.size, .recorded q, .displaced q orphan, .forwarding p q]
  | refused {p : Priority} {q : Request} {cause : PendingError} {pending : PendingTable Requester}
      (holding : r.dispatcher = .holding p q)
      (answer : r.pending.insert q.transactionId q.requester r.clock = (.error cause, pending)) :
      Step r (.turn .record) { r with pending, dispatcher := .idle }
        [.pending pending.size, .refused q cause]
  | forwarded {q : Request} (writing : r.dispatcher = .writing q)
      (writable : r.device.writable = true) :
      Step r (.turn .write)
        { r with
          dispatcher := .idle
          device := { r.device with output := r.device.output ++ q.frame.encode } }
        [.forwarded q]
  | unwritten {q : Request} (writing : r.dispatcher = .writing q)
      (broken : r.device.writable = false) :
      Step r (.turn .write)
        { r with
          dispatcher := .idle
          pending := (r.pending.take q.transactionId).2
          deviceUp := false }
        [.forwardFailed q (.io .brokenPipe), .pending (r.pending.take q.transactionId).2.size]
  | routerStopped : Step r (.turn .stopRouter) { r with routing := false } [.routerStopped]
  | dispatcherUnused (unstarted : r.dispatcher = .unstarted) :
      Step r (.turn .stopDispatcher) { r with dispatcher := .ended } []
  | dispatcherStopped {queue : WorkQueue Request} (free : ∀ p q, r.dispatcher ≠ .holding p q)
      (same : queue.lanes = r.queue.lanes)
      (awake : queue.waiter = .asleep → r.queue.waiter = .asleep) :
      Step r (.turn .stopDispatcher) { r with queue, dispatcher := .ended } [.dispatcherStopped]

/-! ## Every move is one of the cases -/

variable {r : Relay}

/-- A move without effect. -/
theorem Step.unchanged {m : Move} (h : ∀ bytes, m ≠ .input (.deviceSends bytes)) :
    Step r m r [] :=
  .aside r.clients r.acceptor r.acceptFailures r.cancelled r.clock h (by simp) (Nat.le_refl _)

/-- A move that only changes clients. -/
theorem Step.changed {m : Move} {es : List RelayEvent} (clients : List Client)
    (h : ∀ bytes, m ≠ .input (.deviceSends bytes)) (quiet : ∀ e ∈ es, e.isAside) :
    Step r m { r with clients } es :=
  .aside clients r.acceptor r.acceptFailures r.cancelled r.clock h quiet (Nat.le_refl _)

theorem step_apply (r : Relay) (i : Input) : Step r (.input i) (r.apply i).1 (r.apply i).2 := by
  cases i with
  | attach peer => exact .changed _ (by simp) (by simp [apply])
  | serve peer => exact .changed _ (by simp) (by simp [apply])
  | dial peer =>
    simp only [apply]
    split
    · exact .changed _ (by simp) (by simp)
    · exact .unchanged (by simp)
  | failAccept =>
    exact .aside r.clients r.acceptor (r.acceptFailures + 1) r.cancelled r.clock (by simp)
      (by simp [apply]) (Nat.le_refl _)
  | clientSends c bytes => exact .changed _ (by simp) (by simp [apply])
  | clientEnds c how => exact .changed _ (by simp) (by simp [apply])
  | clientCloses c => exact .changed _ (by simp) (by simp [apply])
  | clientBreaks c => exact .changed _ (by simp) (by simp [apply])
  | push c p f =>
    simp only [apply, push]
    split
    · exact .unchanged (by simp)
    · exact .pushed _
  | register c id =>
    simp only [apply, register]
    split
    · exact .unchanged (by simp)
    · exact .registered _
  | collect c count =>
    simp only [apply, collect]
    split
    · exact .unchanged (by simp)
    · exact .changed _ (by simp) (by simp)
  | drain => exact .drained
  | deviceSends bytes => exact .deviceSent
  | deviceEnds how => exact .deviceEnded
  | deviceBreaks => exact .deviceBroke
  | startDispatcher =>
    simp only [apply]
    split
    · next h => exact .started h
    · exact .unchanged (by simp)
  | wait time =>
    exact .aside r.clients r.acceptor r.acceptFailures r.cancelled (r.clock + time) (by simp)
      (by simp [apply]) (Nat.le_add_right _ _)
  | cancel =>
    exact .aside r.clients r.acceptor r.acceptFailures true r.clock (by simp) (by simp [apply])
      (Nat.le_refl _)

/-- An offer ends in one of three verdicts and touches clients only. -/
theorem offer_cases (r : Relay) (who : Requester) (f : Frame) :
    ∃ clients e, r.offer who f = ({ r with clients }, [e]) ∧ Verdict (some who) f e := by
  unfold offer
  cases r.client? who.client with
  | none => exact ⟨r.clients, _, rfl, .inr (.inl rfl)⟩
  | some c =>
    dsimp only
    split
    · exact ⟨_, _, rfl, .inl rfl⟩
    · exact ⟨_, _, rfl, .inr (.inl rfl)⟩
    · exact ⟨_, _, rfl, .inr (.inr rfl)⟩

/-- What the turns do to the shared parts. -/
theorem Turned.step {t : Turn} {r' : Relay} {es : List RelayEvent} (h : Turned r t r' es) :
    Step r (.turn t) r' es := by
  cases h with
  | missed routing next unknown => exact .routed r.clients routing next (by rw [unknown]; rfl)
  | @offered f input who routing next awaited =>
    obtain ⟨clients, e, hoffer, hverdict⟩ := offer_cases (r.withResponse f input) who f
    rw [hoffer]
    exact .routed clients routing next (by rw [awaited]; exact hverdict)
  | lost routing told => exact .lost routing told
  | slept idle _ empty same asleep => exact .slept idle empty same asleep
  | taken idle _ pop absent => exact .taken idle pop absent
  | recorded holding answer => exact .recorded holding answer
  | displaced holding answer => exact .displaced holding answer
  | refused holding answer => exact .refused holding answer
  | forwarded writing writable => exact .forwarded writing writable
  | unwritten writing broken => exact .unwritten writing broken
  | read => exact .received _ _ _
  | acceptFailed =>
    exact .aside r.clients .resting _ r.cancelled r.clock (by simp) (by simp [RelayEvent.isAside])
      (Nat.le_refl _)
  | rested =>
    exact .aside r.clients .listening r.acceptFailures r.cancelled r.clock (by simp) (by simp)
      (Nat.le_refl _)
  | routerStopped => exact .routerStopped
  | dispatcherUnused _ unstarted => exact .dispatcherUnused unstarted
  | dispatcherStopped _ free _ same awake => exact .dispatcherStopped free same awake
  | acceptorStopped =>
    exact .aside _ .joining r.acceptFailures r.cancelled r.clock (by simp) (by simp) (Nat.le_refl _)
  | joined =>
    exact .aside r.clients .closed r.acceptFailures r.cancelled r.clock (by simp)
      (by simp [RelayEvent.isAside]) (Nat.le_refl _)
  | began | readFailed | finished | fetched | delivered | undelivered | accepted | sessionStopped
  | sessionInterrupted =>
    exact .changed _ (by simp) (by simp [RelayEvent.isAside])

/-- What a move does is one of the cases. -/
theorem step_move (r : Relay) (m : Move) : Step r m (r.move m).1 (r.move m).2 := by
  cases m with
  | input i => exact step_apply r i
  | turn t =>
    rcases r.turned_or_idle t with h | h
    · exact h.step
    · rw [h]
      exact .unchanged (by simp)

/-- Only the dispatcher refuses a request, when it is to record what it holds. -/
theorem Step.of_refused {m : Move} {r' : Relay} {es : List RelayEvent} {q : Request}
    {cause : PendingError} (hs : Step r m r' es) (h : .refused q cause ∈ es) :
    m = .turn .record ∧ (∃ p, r.dispatcher = .holding p q) ∧ ∃ pending,
      r.pending.insert q.transactionId q.requester r.clock = (.error cause, pending) ∧
      r' = { r with pending, dispatcher := .idle } ∧
      es = [.pending pending.size, .refused q cause] := by
  cases hs with
  | aside _ _ _ _ _ _ quiet => cases quiet _ h
  | @refused p q' cause' pending holding answer =>
    obtain ⟨rfl, rfl⟩ : q = q' ∧ cause = cause' := by simpa using h
    exact ⟨rfl, ⟨p, holding⟩, pending, answer, rfl, rfl⟩
  | routed _ _ _ verdict => cases verdict.isPassing _ _ h
  | lost _ told => cases r.isLoss_loseDevice told _ h
  | _ => simp at h

end Relay

end ModbusRelay
