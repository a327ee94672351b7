import ModbusRelay.Relay.Input
import ModbusRelay.Proofs.Frame.Decode
import ModbusRelay.Proofs.Queue.Wait

/-!
What a turn does when its worker can take it.

`Turned r t r' es` lists the cases: what the worker has found in `r`, the relay `r'` that it leaves
and the events `es` of its turn. `turned` says that every turn that can be taken is one of them. What
turns do to a part of the relay is proved by cases on `Turned`, and no turn is opened again for it.
-/

namespace ModbusRelay

/-- Two branches on the same condition agree, as far as `f` and `g` show it, if their cases do. -/
theorem apply_ite_eq {α β γ : Type} (f : α → γ) (g : β → γ) {p q : Prop} [Decidable p]
    [Decidable q] {a b : α} {a' b' : β} (hpq : p = q) (hpos : q → f a = g a')
    (hneg : ¬q → f b = g b') : f (if p then a else b) = g (if q then a' else b') := by
  rw [apply_ite f, apply_ite g]
  exact ite_congr hpq hpos hneg

theorem ite_eq_apply {α β : Type} (f : α → β) {p q : Prop} [Decidable p] [Decidable q] {a b : β}
    {a' b' : α} (hpq : p = q) (hpos : q → a = f a') (hneg : ¬q → b = f b') :
    (if p then a else b) = f (if q then a' else b') :=
  apply_ite_eq id f hpq hpos hneg

namespace Relay

/-- The relay after the router has read a response and taken its entry out of the table. -/
def withResponse (r : Relay) (f : Frame) (input : FrameReader) : Relay :=
  { r with
    device := { r.device with input }
    pending := (r.pending.take f.transactionId).2 }

/-- The cases of a turn, with the relay and the events that it leads to. -/
inductive Turned (r : Relay) : Turn → Relay → List RelayEvent → Prop where
  | missed {f : Frame} {input : FrameReader} (routing : r.routing = true)
      (next : r.device.input.next = (.item (.frame f), input))
      (unknown : (r.pending.take f.transactionId).1 = none) :
      Turned r .route (r.withResponse f input)
        [.pending (r.pending.take f.transactionId).2.size, .missed f]
  | offered {f : Frame} {input : FrameReader} {who : Requester} (routing : r.routing = true)
      (next : r.device.input.next = (.item (.frame f), input))
      (awaited : (r.pending.take f.transactionId).1 = some who) :
      Turned r .route ((r.withResponse f input).offer who f).1
        (.pending (r.pending.take f.transactionId).2.size ::
          ((r.withResponse f input).offer who f).2)
  | lost {cause : RelayEvent} (routing : r.routing = true)
      (told : cause = .deviceClosed ∨ ∃ e, cause = .deviceReadFailed e) :
      Turned r .route r.loseDevice.1 (cause :: r.loseDevice.2)
  | slept {queue : WorkQueue Request} (idle : r.dispatcher = .idle)
      (awake : r.queue.waiter ≠ .asleep) (empty : r.queue.lanes.pop? = none)
      (same : queue.lanes = r.queue.lanes) (asleep : queue.waiter = .asleep) :
      Turned r .take { r with queue } []
  | taken {p : Priority} {q : Request} {queue : WorkQueue Request} (idle : r.dispatcher = .idle)
      (awake : r.queue.waiter ≠ .asleep) (pop : r.queue.lanes.pop? = some ((p, q), queue.lanes))
      (absent : queue.waiter = .absent) :
      Turned r .take { r with queue, dispatcher := .holding p q } [.taken p q]
  | recorded {p : Priority} {q : Request} {pending : PendingTable Requester}
      (holding : r.dispatcher = .holding p q)
      (answer : r.pending.insert q.transactionId q.requester r.clock = (.ok none, pending)) :
      Turned r .record { r with pending, dispatcher := .writing q }
        [.pending pending.size, .recorded q, .forwarding p q]
  | displaced {p : Priority} {q : Request} {orphan : Requester} {pending : PendingTable Requester}
      (holding : r.dispatcher = .holding p q)
      (answer :
        r.pending.insert q.transactionId q.requester r.clock = (.ok (some orphan), pending)) :
      Turned r .record { r with pending, dispatcher := .writing q }
        [.pending pending.size, .recorded q, .displaced q orphan, .forwarding p q]
  | refused {p : Priority} {q : Request} {cause : PendingError} {pending : PendingTable Requester}
      (holding : r.dispatcher = .holding p q)
      (answer : r.pending.insert q.transactionId q.requester r.clock = (.error cause, pending)) :
      Turned r .record { r with pending, dispatcher := .idle }
        [.pending pending.size, .refused q cause]
  | forwarded {q : Request} (writing : r.dispatcher = .writing q)
      (writable : r.device.writable = true) :
      Turned r .write
        { r with
          dispatcher := .idle
          device := { r.device with output := r.device.output ++ q.frame.encode } }
        [.forwarded q]
  | unwritten {q : Request} (writing : r.dispatcher = .writing q)
      (broken : r.device.writable = false) :
      Turned r .write
        { r with
          dispatcher := .idle
          pending := (r.pending.take q.transactionId).2
          deviceUp := false }
        [.forwardFailed q (.io .brokenPipe), .pending (r.pending.take q.transactionId).2.size]
  | began {c : Nat} {x : Client} (found : r.client? c = some x)
      (accepted : x.phase? = some .accepted) :
      Turned r (.begin c) (r.withClient c (·.withConnection ({ · with phase := .serving })))
        [.connected ⟨c, x.peer⟩ (.ofPeer x.peer)]
  | read {c : Nat} {x : Client} {k : Connection} {f : Frame} {input : FrameReader}
      (found : r.client? c = some x) (serving : x.phase? = some .serving)
      (connection : x.connection = some k) (free : k.inHand = none)
      (next : k.input.next = (.item (.frame f), input)) :
      Turned r (.intake c)
        { r.withClient c (·.withConnection ({ · with input })) with
          queue := r.queue.push (.ofPeer x.peer) ⟨⟨c, x.peer⟩, f⟩ }
        [.received (.ofPeer x.peer) ⟨⟨c, x.peer⟩, f⟩, .enqueued (.ofPeer x.peer) ⟨⟨c, x.peer⟩, f⟩]
  | readFailed {c : Nat} {x : Client} {k : Connection} {e : RelayError}
      (found : r.client? c = some x) (serving : x.phase? = some .serving)
      (connection : x.connection = some k) (free : k.inHand = none)
      (next : k.input.next.1 = .item (.failed e)) :
      Turned r (.intake c) (r.withClient c (·.hangUp))
        [.readFailed ⟨c, x.peer⟩ e, .disconnected ⟨c, x.peer⟩]
  | finished {c : Nat} {x : Client} {k : Connection} (found : r.client? c = some x)
      (serving : x.phase? = some .serving) (connection : x.connection = some k)
      (free : k.inHand = none) (next : k.input.next.1 = .finished) :
      Turned r (.intake c) (r.withClient c (·.hangUp))
        [.clientEnded ⟨c, x.peer⟩, .disconnected ⟨c, x.peer⟩]
  | fetched {c : Nat} {x : Client} {k : Connection} {f : Frame} {mailbox : Mailbox}
      (found : r.client? c = some x) (serving : x.phase? = some .serving)
      (connection : x.connection = some k) (free : k.inHand = none)
      (taken : x.mailbox.take? = some (f, mailbox)) :
      Turned r (.fetch c)
        (r.withClient c fun x => { x with mailbox }.withConnection ({ · with inHand := some f })) []
  | delivered {c : Nat} {x : Client} {k : Connection} {f : Frame}
      (found : r.client? c = some x) (serving : x.phase? = some .serving)
      (connection : x.connection = some k) (inHand : k.inHand = some f)
      (writable : k.writable = true) :
      Turned r (.deliver c)
        (r.withClient c (·.withConnection fun k =>
          { k with inHand := none, output := k.output ++ f.encode }))
        [.delivered ⟨c, x.peer⟩ f]
  | undelivered {c : Nat} {x : Client} {k : Connection} {f : Frame}
      (found : r.client? c = some x) (serving : x.phase? = some .serving)
      (connection : x.connection = some k) (inHand : k.inHand = some f)
      (broken : k.writable = false) :
      Turned r (.deliver c) (r.withClient c (·.hangUp))
        [.writeFailed ⟨c, x.peer⟩ f.transactionId (.io .brokenPipe), .disconnected ⟨c, x.peer⟩]
  | accepted {c : Nat} {x : Client} (listening : r.acceptor = .listening)
      (found : r.client? c = some x) (waiting : x.phase? = some .waiting) :
      Turned r .accept (r.withClient c (·.withConnection ({ · with phase := .accepted }))) []
  | acceptFailed (listening : r.acceptor = .listening) (failures : 0 < r.acceptFailures) :
      Turned r .accept
        { r with acceptor := .resting, acceptFailures := r.acceptFailures - 1 }
        [.acceptFailed .tooManyOpenFiles]
  | rested (resting : r.acceptor = .resting) : Turned r .resume { r with acceptor := .listening } []
  | routerStopped (cancelled : r.cancelled = true) (routing : r.routing = true) :
      Turned r .stopRouter { r with routing := false } [.routerStopped]
  | dispatcherUnused (cancelled : r.cancelled = true) (unstarted : r.dispatcher = .unstarted) :
      Turned r .stopDispatcher { r with dispatcher := .ended } []
  | dispatcherStopped {queue : WorkQueue Request} (cancelled : r.cancelled = true)
      (free : ∀ p q, r.dispatcher ≠ .holding p q) (running : r.dispatcher ≠ .ended)
      (same : queue.lanes = r.queue.lanes)
      (awake : queue.waiter = .asleep → r.queue.waiter = .asleep) :
      Turned r .stopDispatcher { r with queue, dispatcher := .ended } [.dispatcherStopped]
  | acceptorStopped (cancelled : r.cancelled = true) (listening : r.acceptor = .listening) :
      Turned r .stopAcceptor
        { r with
          acceptor := .joining
          clients := r.clients.map fun x => if x.phase? = some .waiting then x.hangUp else x }
        []
  | joined (joining : r.acceptor = .joining)
      (ended : ∀ x ∈ r.clients, x.phase? ≠ some .accepted ∧ x.phase? ≠ some .serving) :
      Turned r .join { r with acceptor := .closed } [.acceptorStopped]
  | sessionStopped {c : Nat} {x : Client} {k : Connection} (cancelled : r.cancelled = true)
      (found : r.client? c = some x) (serving : x.phase? = some .serving)
      (connection : x.connection = some k) (free : k.inHand = none) :
      Turned r (.stopSession c) (r.withClient c (·.hangUp))
        [.sessionStopping ⟨c, x.peer⟩, .disconnected ⟨c, x.peer⟩]
  | sessionInterrupted {c : Nat} {x : Client} {k : Connection} {f : Frame}
      (cancelled : r.cancelled = true) (found : r.client? c = some x)
      (serving : x.phase? = some .serving) (connection : x.connection = some k)
      (inHand : k.inHand = some f) :
      Turned r (.stopSession c) (r.withClient c (·.hangUp)) [.disconnected ⟨c, x.peer⟩]

variable {r : Relay} {r' : Relay} {es : List RelayEvent}

/-! ## Router and dispatcher -/

theorem turned_route (h : r.route? = some (r', es)) : Turned r .route r' es := by
  unfold route? at h
  split at h
  · next routing =>
    rcases hnext : r.device.input.next with ⟨next, input⟩
    have hself : (∀ f, next ≠ .item (.frame f)) →
        { r with device := { r.device with input } } = r := by
      intro hn
      rw [FrameReader.next_eq_self hnext hn]
    rw [hnext] at h
    dsimp only at h
    split at h
    · cases h
    · next f =>
      unfold routeResponse at h
      dsimp only at h
      cases howner : (r.pending.take f.transactionId).1 with
      | none =>
        rw [howner] at h
        cases h
        exact .missed routing hnext howner
      | some who =>
        rw [howner] at h
        cases h
        exact .offered routing hnext howner
    · rw [hself (by simp)] at h
      cases h
      exact .lost routing (.inr ⟨_, rfl⟩)
    · rw [hself (by simp)] at h
      cases h
      exact .lost routing (.inl rfl)
  · cases h

theorem turned_take (h : r.take? = some (r', es)) : Turned r .take r' es := by
  unfold take? at h
  split at h
  · next hidle =>
    obtain ⟨idle, awake⟩ := hidle
    have hpoll : r.queue.poll = r.queue.resume := by
      unfold WorkQueue.poll
      split
      · next hasleep => exact absurd hasleep awake
      · rfl
      · rfl
    cases hpop : r.queue.lanes.pop? with
    | none =>
      rw [hpoll, WorkQueue.resume_of_empty hpop] at h
      cases h
      exact .slept idle awake hpop rfl rfl
    | some next =>
      obtain ⟨⟨p, q⟩, lanes⟩ := next
      rw [hpoll, WorkQueue.resume_of_pop? hpop] at h
      cases h
      exact .taken idle awake hpop rfl
  · cases h

theorem turned_record (h : r.record? = some (r', es)) : Turned r .record r' es := by
  unfold record? at h
  split at h
  · next p q holding =>
    rcases hins : r.pending.insert q.transactionId q.requester r.clock with ⟨answer, pending⟩
    rw [hins] at h
    dsimp only at h
    split at h
    · cases h
      exact .recorded holding hins
    · cases h
      exact .displaced holding hins
    · cases h
      exact .refused holding hins
  · cases h

theorem turned_write (h : r.write? = some (r', es)) : Turned r .write r' es := by
  unfold write? at h
  split at h
  · next q writing =>
    dsimp only at h
    split at h
    · next hwritable =>
      cases h
      exact .forwarded writing hwritable
    · next hwritable =>
      cases h
      exact .unwritten writing (by simpa using hwritable)
  · cases h

theorem turned_stopDispatcher (h : r.stopDispatcher? = some (r', es)) :
    Turned r .stopDispatcher r' es := by
  unfold stopDispatcher? at h
  split at h
  · next cancelled =>
    split at h
    · next hd =>
      cases h
      exact .dispatcherUnused cancelled hd
    · next hd =>
      cases h
      exact .dispatcherStopped cancelled (by simp [hd]) (by simp [hd]) rfl id
    · next hd =>
      cases h
      refine .dispatcherStopped cancelled (by simp [hd]) (by simp [hd])
        (WorkQueue.lanes_cancel _) ?_
      intro hasleep
      exact absurd hasleep (WorkQueue.waiter_cancel _)
    · cases h
    · cases h
  · cases h

/-! ## Sessions and the acceptor -/

/-- Only what a change makes of the client itself matters. -/
theorem withClient_congr (r : Relay) {c : Nat} {f g : Client → Client}
    (h : ∀ x, r.client? c = some x → f x = g x) : r.withClient c f = r.withClient c g := by
  have hclients : r.clients.modify c f = r.clients.modify c g := by
    refine List.ext_getElem? fun i => ?_
    rw [List.getElem?_modify, List.getElem?_modify]
    by_cases hi : c = i
    · subst hi
      cases hx : r.clients[c]? with
      | none => rfl
      | some x => simp [h x hx]
    · simp [hi]
  unfold withClient
  rw [hclients]

theorem clientIn?_eq_some {c : Nat} {phase : SessionPhase} {who : Requester} {client : Client}
    (h : r.clientIn? c phase = some (who, client)) :
    r.client? c = some client ∧ client.phase? = some phase ∧ who = ⟨c, client.peer⟩ := by
  unfold clientIn? at h
  split at h
  · next cl hcl =>
    split at h
    · next hphase =>
      cases h
      exact ⟨hcl, hphase, rfl⟩
    · cases h
  · cases h

theorem freeSession?_eq_some {c : Nat} {who : Requester} {x : Client} {k : Connection}
    (h : r.freeSession? c = some (who, x, k)) :
    r.client? c = some x ∧ x.phase? = some .serving ∧ who = ⟨c, x.peer⟩ ∧
      x.connection = some k ∧ k.inHand = none := by
  simp only [freeSession?, Option.bind_eq_bind, Option.bind_eq_some_iff, Prod.exists] at h
  obtain ⟨who', x', hx, k', connection, h⟩ := h
  obtain ⟨free, h⟩ := Option.ite_none_right_eq_some.mp h
  cases h
  obtain ⟨found, serving, rfl⟩ := clientIn?_eq_some hx
  exact ⟨found, serving, rfl, connection, free⟩

theorem turned_begin {c : Nat} (h : r.begin? c = some (r', es)) : Turned r (.begin c) r' es := by
  simp only [begin?, Option.bind_eq_bind, Option.bind_eq_some_iff, Prod.exists] at h
  obtain ⟨who, x, hx, h⟩ := h
  obtain ⟨found, accepted, rfl⟩ := clientIn?_eq_some hx
  cases h
  exact .began found accepted

theorem turned_intake {c : Nat} (h : r.intake? c = some (r', es)) :
    Turned r (.intake c) r' es := by
  simp only [intake?, Option.bind_eq_bind, Option.bind_eq_some_iff, Prod.exists] at h
  obtain ⟨who, x, k, hx, h⟩ := h
  obtain ⟨found, serving, rfl, connection, free⟩ := freeSession?_eq_some hx
  rcases hnext : k.input.next with ⟨next, input⟩
  -- What is no frame leaves the bytes where they are.
  have hhungUp (hn : ∀ f, next ≠ .item (.frame f)) :
      r.withClient c (fun x => (x.withConnection ({ · with input })).hangUp) =
        r.withClient c (·.hangUp) := by
    refine withClient_congr r fun y hy => ?_
    obtain rfl : x = y := Option.some.inj (found.symm.trans hy)
    rw [FrameReader.next_eq_self hnext hn]
    simp [Client.withConnection, Client.hangUp, connection]
  rw [hnext] at h
  dsimp only at h
  split at h
  · cases h
  · cases h
    exact .read found serving connection free hnext
  · rw [hhungUp (by simp)] at h
    cases h
    exact .readFailed found serving connection free (by rw [hnext])
  · rw [hhungUp (by simp)] at h
    cases h
    exact .finished found serving connection free (by rw [hnext])

theorem turned_fetch {c : Nat} (h : r.fetch? c = some (r', es)) : Turned r (.fetch c) r' es := by
  simp only [fetch?, Option.bind_eq_bind, Option.bind_eq_some_iff, Prod.exists] at h
  obtain ⟨who, x, k, hx, f, mailbox, taken, h⟩ := h
  obtain ⟨found, serving, -, connection, free⟩ := freeSession?_eq_some hx
  cases h
  exact .fetched found serving connection free taken

theorem turned_deliver {c : Nat} (h : r.deliver? c = some (r', es)) :
    Turned r (.deliver c) r' es := by
  simp only [deliver?, Option.bind_eq_bind, Option.bind_eq_some_iff, Prod.exists] at h
  obtain ⟨who, x, hx, k, connection, f, inHand, h⟩ := h
  obtain ⟨found, serving, rfl⟩ := clientIn?_eq_some hx
  split at h
  · next writable =>
    cases h
    exact .delivered found serving connection inHand writable
  · next hwritable =>
    cases h
    exact .undelivered found serving connection inHand (by simpa using hwritable)

theorem turned_stopSession {c : Nat} (h : r.stopSession? c = some (r', es)) :
    Turned r (.stopSession c) r' es := by
  obtain ⟨cancelled, h⟩ := Option.ite_none_right_eq_some.mp h
  simp only [Option.bind_eq_bind, Option.bind_eq_some_iff, Prod.exists] at h
  obtain ⟨who, x, hx, k, connection, h⟩ := h
  obtain ⟨found, serving, rfl⟩ := clientIn?_eq_some hx
  cases inHand : k.inHand with
  | none =>
    rw [inHand] at h
    cases h
    exact .sessionStopped cancelled found serving connection inHand
  | some f =>
    rw [inHand] at h
    cases h
    exact .sessionInterrupted cancelled found serving connection inHand

theorem turned_accept (h : r.accept? = some (r', es)) : Turned r .accept r' es := by
  unfold accept? at h
  split at h
  · next listening =>
    split at h
    · cases h
    · next c hc =>
      split at h
      · next failures =>
        cases h
        exact .acceptFailed listening failures
      · cases h
        obtain ⟨hlt, hwaiting, -⟩ := List.findIdx?_eq_some_iff_getElem.mp hc
        exact .accepted listening (List.getElem?_eq_getElem hlt) (by simpa using hwaiting)
  · cases h

/-- A turn that a worker can take is one of the cases. -/
theorem turned {t : Turn} (h : r.turn? t = some (r', es)) : Turned r t r' es := by
  cases t with
  | route => exact turned_route h
  | take => exact turned_take h
  | record => exact turned_record h
  | write => exact turned_write h
  | begin c => exact turned_begin h
  | intake c => exact turned_intake h
  | fetch c => exact turned_fetch h
  | deliver c => exact turned_deliver h
  | accept => exact turned_accept h
  | resume =>
    obtain ⟨resting, h⟩ := Option.ite_none_right_eq_some.mp h
    cases h
    exact .rested resting
  | stopRouter =>
    obtain ⟨⟨cancelled, routing⟩, h⟩ := Option.ite_none_right_eq_some.mp h
    cases h
    exact .routerStopped cancelled routing
  | stopDispatcher => exact turned_stopDispatcher h
  | stopAcceptor =>
    obtain ⟨⟨cancelled, listening⟩, h⟩ := Option.ite_none_right_eq_some.mp h
    cases h
    exact .acceptorStopped cancelled listening
  | join =>
    obtain ⟨⟨joining, ended⟩, h⟩ := Option.ite_none_right_eq_some.mp h
    cases h
    exact .joined joining ended
  | stopSession c => exact turned_stopSession h

theorem move_of_turn? {t : Turn} {o : Outcome} (h : r.turn? t = some o) :
    r.move (.turn t) = o := by
  simp [move, h]

theorem move_of_turn?_none {t : Turn} (h : r.turn? t = none) : r.move (.turn t) = (r, []) := by
  simp [move, h]

/-- A turn is one of the cases, or its worker cannot take it and nothing happens. -/
theorem turned_or_idle (r : Relay) (t : Turn) :
    Turned r t (r.move (.turn t)).1 (r.move (.turn t)).2 ∨ r.move (.turn t) = (r, []) := by
  cases h : r.turn? t with
  | none => exact .inr (move_of_turn?_none h)
  | some o =>
    rw [move_of_turn? h]
    exact .inl (turned h)

end Relay

end ModbusRelay
