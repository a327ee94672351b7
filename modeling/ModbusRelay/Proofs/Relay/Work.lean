import ModbusRelay.Proofs.Relay.Run

/-!
Moves and the work to be done: the queue and the dispatcher.

Apart from the dispatcher itself nobody looks into the queue, so a move of anybody else comes to the
same whatever work there is to be done (`move_withWork`): it only adds what it queues. A turn of the
dispatcher depends on the lanes, and never on how the wait for an entry stands (`move_take`).
-/

namespace ModbusRelay

/-- Does the move look at the queue, or at what the dispatcher does? -/
def Move.looksAtWork : Move → Bool
  | .input .drain | .input .startDispatcher | .turn .take | .turn .record | .turn .write
  | .turn .stopDispatcher => true
  | _ => false

namespace Relay

/-- The relay with other work to be done. -/
def withWork (r : Relay) (queue : WorkQueue Request) (dispatcher : Dispatcher) : Relay :=
  { r with queue, dispatcher }

/-- The outcome for a relay that had other work to be done. -/
def Outcome.withWork (o : Outcome) (queue : WorkQueue Request) (dispatcher : Dispatcher) :
    Outcome :=
  (o.1.withWork (queue.pushAll (Trace.queued o.2)) dispatcher, o.2)

section Fields

variable (r : Relay) (w : WorkQueue Request) (d : Dispatcher)

@[simp]
theorem withWork_self : r.withWork r.queue r.dispatcher = r := rfl

@[simp]
theorem withWork_queue : (r.withWork w d).queue = w := rfl

@[simp]
theorem withWork_dispatcher : (r.withWork w d).dispatcher = d := rfl

@[simp]
theorem withWork_pending : (r.withWork w d).pending = r.pending := rfl

@[simp]
theorem withWork_device : (r.withWork w d).device = r.device := rfl

@[simp]
theorem withWork_routing : (r.withWork w d).routing = r.routing := rfl

@[simp]
theorem withWork_acceptor : (r.withWork w d).acceptor = r.acceptor := rfl

@[simp]
theorem withWork_cancelled : (r.withWork w d).cancelled = r.cancelled := rfl

@[simp]
theorem withWork_client? (c : Nat) : (r.withWork w d).client? c = r.client? c := rfl

@[simp]
theorem withWork_clientIn? (c : Nat) (phase : SessionPhase) :
    (r.withWork w d).clientIn? c phase = r.clientIn? c phase := rfl

@[simp]
theorem withWork_freeSession? (c : Nat) : (r.withWork w d).freeSession? c = r.freeSession? c := rfl

@[simp]
theorem withWork_nextWaiting? : (r.withWork w d).nextWaiting? = r.nextWaiting? := rfl

end Fields

/-! ## Moves that do not look at the work -/

section Blind

variable (r : Relay) (w : WorkQueue Request) (d : Dispatcher)

theorem apply_withWork (i : Input) (hi : (Move.input i).looksAtWork = false) :
    (r.withWork w d).apply i = (r.apply i).withWork w d := by
  cases i with
  | drain | startDispatcher => cases hi
  | dial peer =>
    exact ite_eq_apply (Outcome.withWork · w d) rfl (fun _ => rfl) fun _ => rfl
  | push c p f =>
    simp only [apply, push, withWork_client?]
    cases r.client? c <;> rfl
  | register c id =>
    simp only [apply, register, withWork_client?]
    cases r.client? c <;> rfl
  | collect c count =>
    simp only [apply, collect, withWork_client?]
    cases r.client? c <;> rfl
  | deviceSends bytes | deviceEnds =>
    exact Prod.ext (ite_eq_apply (withWork · w d) rfl (fun _ => rfl) fun _ => rfl) rfl
  | _ => rfl

theorem offer_withWork (who : Requester) (f : Frame) :
    (r.withWork w d).offer who f = (r.offer who f).withWork w d := by
  simp only [offer, withWork_client?]
  cases r.client? who.client with
  | none => rfl
  | some c =>
    dsimp only
    rcases c.mailbox.offer f with ⟨answer, mailbox⟩
    cases answer <;> rfl

theorem routeResponse_withWork (f : Frame) :
    (r.withWork w d).routeResponse f = (r.routeResponse f).withWork w d := by
  simp only [routeResponse, withWork_pending]
  rcases r.pending.take f.transactionId with ⟨owner, pending⟩
  cases owner with
  | none => rfl
  | some who =>
    dsimp only
    have hoffer := offer_withWork { r with pending } w d who f
    show ((({ r with pending } : Relay).withWork w d |>.offer who f).1,
      RelayEvent.pending pending.size ::
        (({ r with pending } : Relay).withWork w d |>.offer who f).2) = _
    rw [hoffer]
    rfl

theorem loseDevice_withWork : (r.withWork w d).loseDevice = r.loseDevice.withWork w d := by
  simp only [loseDevice, withWork_pending]
  by_cases h : 0 < r.pending.size <;> simp only [h, if_true, if_false] <;> rfl

theorem route_withWork : (r.withWork w d).route? = r.route?.map (·.withWork w d) := by
  refine ite_eq_apply (Option.map (Outcome.withWork · w d)) rfl (fun _ => ?_) fun _ => rfl
  rw [withWork_device]
  rcases r.device.input.next with ⟨next, input⟩
  have hlose := loseDevice_withWork { r with device := { r.device with input } } w d
  have hlost (cause : RelayEvent) (o o' : Outcome) (h : o = o'.withWork w d)
      (hcause : cause.queued? = none) :
      some (o.1, cause :: o.2) = some (Outcome.withWork (o'.1, cause :: o'.2) w d) := by
    rw [h]
    unfold Outcome.withWork
    rw [Trace.queued, Trace.queued, List.filterMap_cons_none hcause]
  cases next with
  | waiting => rfl
  | finished => exact hlost .deviceClosed _ _ hlose rfl
  | item i =>
    cases i with
    | frame f =>
      exact congrArg some
        (routeResponse_withWork { r with device := { r.device with input } } w d f)
    | failed e => exact hlost (.deviceReadFailed e) _ _ hlose rfl

theorem intake_withWork (c : Nat) :
    (r.withWork w d).intake? c = (r.intake? c).map (·.withWork w d) := by
  simp only [intake?, withWork_freeSession?]
  cases r.freeSession? c with
  | none => rfl
  | some found =>
    obtain ⟨who, client, k⟩ := found
    simp only [Option.bind_eq_bind, Option.bind_some]
    rcases k.input.next with ⟨next, input⟩
    cases next with
    | waiting | finished => rfl
    | item i => cases i <;> rfl

theorem fetch_withWork (c : Nat) :
    (r.withWork w d).fetch? c = (r.fetch? c).map (·.withWork w d) := by
  simp only [fetch?, withWork_freeSession?]
  cases r.freeSession? c with
  | none => rfl
  | some found =>
    obtain ⟨who, client, k⟩ := found
    simp only [Option.bind_eq_bind, Option.bind_some]
    cases client.mailbox.take? <;> rfl

theorem deliver_withWork (c : Nat) :
    (r.withWork w d).deliver? c = (r.deliver? c).map (·.withWork w d) := by
  simp only [deliver?, withWork_clientIn?]
  cases r.clientIn? c .serving with
  | none => rfl
  | some found =>
    obtain ⟨who, client⟩ := found
    simp only [Option.bind_eq_bind, Option.bind_some]
    cases client.connection with
    | none => rfl
    | some k =>
      simp only [Option.bind_some]
      cases k.inHand with
      | none => rfl
      | some f =>
        simp only [Option.bind_some]
        cases k.writable <;> rfl

theorem accept_withWork : (r.withWork w d).accept? = r.accept?.map (·.withWork w d) := by
  refine ite_eq_apply (Option.map (Outcome.withWork · w d)) rfl (fun _ => ?_) fun _ => rfl
  rw [withWork_nextWaiting?]
  cases r.nextWaiting? with
  | none => rfl
  | some c =>
    exact ite_eq_apply (Option.map (Outcome.withWork · w d)) rfl (fun _ => rfl) fun _ => rfl

theorem turn_withWork (t : Turn) (ht : (Move.turn t).looksAtWork = false) :
    (r.withWork w d).turn? t = (r.turn? t).map (·.withWork w d) := by
  cases t with
  | take | record | write | stopDispatcher => cases ht
  | route => exact r.route_withWork w d
  | begin c =>
    simp only [turn?, begin?, withWork_clientIn?]
    cases r.clientIn? c .accepted <;> rfl
  | intake c => exact r.intake_withWork w d c
  | fetch c => exact r.fetch_withWork w d c
  | deliver c => exact r.deliver_withWork w d c
  | accept => exact r.accept_withWork w d
  | resume | join | stopRouter | stopAcceptor =>
    exact ite_eq_apply (Option.map (Outcome.withWork · w d)) rfl (fun _ => rfl) fun _ => rfl
  | stopSession c =>
    refine ite_eq_apply (Option.map (Outcome.withWork · w d)) rfl (fun _ => ?_) fun _ => rfl
    rw [withWork_clientIn?]
    cases r.clientIn? c .serving with
    | none => rfl
    | some found =>
      obtain ⟨who, client⟩ := found
      simp only [Option.bind_eq_bind, Option.bind_some]
      cases client.connection with
      | none => rfl
      | some k =>
        simp only [Option.bind_some]
        cases k.inHand <;> rfl

/-- A move that does not look at the work comes to the same whatever work there is, and adds to the
queue what it queues. -/
theorem move_withWork (m : Move) (hm : m.looksAtWork = false) :
    (r.withWork w d).move m = (r.move m).withWork w d := by
  cases m with
  | input i => exact r.apply_withWork w d i hm
  | turn t =>
    simp only [move, r.turn_withWork w d t hm]
    cases r.turn? t <;> rfl

end Blind

/-! ## Moves of the dispatcher -/

/-- The dispatcher queues nothing. -/
theorem queued_of_looksAtWork {r r' : Relay} {m : Move} {es : Trace} (hs : Step r m r' es)
    (hm : m.looksAtWork = true) : es.queued = [] := by
  cases hs with
  | aside _ _ _ _ _ _ quiet => exact Trace.queued_aside quiet
  | pushed | received | routed | lost => cases hm
  | _ => rfl

theorem record_withWork (r : Relay) (w : WorkQueue Request) :
    (r.withWork w r.dispatcher).record? =
      r.record?.map fun o => (o.1.withWork w o.1.dispatcher, o.2) := by
  rcases r with ⟨queue, pending, mailboxCapacity, clients, device, dispatcher, routing, acceptor,
    acceptFailures, deviceUp, cancelled, clock⟩
  cases dispatcher with
  | holding p q =>
    simp only [record?, withWork, Option.map_some]
    rcases pending.insert q.transactionId q.requester clock with ⟨answer, pending'⟩
    rcases answer with cause | _ | orphan <;> rfl
  | _ => rfl

theorem write_withWork (r : Relay) (w : WorkQueue Request) :
    (r.withWork w r.dispatcher).write? =
      r.write?.map fun o => (o.1.withWork w o.1.dispatcher, o.2) := by
  rcases r with ⟨queue, pending, mailboxCapacity, clients, ⟨input, writable, output⟩, dispatcher,
    routing, acceptor, acceptFailures, deviceUp, cancelled, clock⟩
  cases dispatcher with
  | writing q => cases writable <;> rfl
  | _ => rfl

theorem stopDispatcher_withWork (r : Relay) (w : WorkQueue Request) :
    let o := r.move (.turn .stopDispatcher)
    ∃ w', (r.withWork w r.dispatcher).move (.turn .stopDispatcher) =
        (o.1.withWork w' o.1.dispatcher, o.2) ∧
      (w' = w ∨ w' = w.cancel.2) := by
  rcases r with ⟨queue, pending, mailboxCapacity, clients, device, dispatcher, routing, acceptor,
    acceptFailures, deviceUp, cancelled, clock⟩
  cases cancelled with
  | false => exact ⟨w, rfl, .inl rfl⟩
  | true =>
    cases dispatcher with
    | idle => exact ⟨w.cancel.2, rfl, .inr rfl⟩
    | _ => exact ⟨w, rfl, .inl rfl⟩

/-- With the same dispatcher, a move other than a drain or a take does the same whatever the queue
holds. -/
theorem move_of_queue (r : Relay) {w : WorkQueue Request} (hw : w.Awake) {m : Move}
    (htake : m ≠ .turn .take) (hdrain : m ≠ .input .drain) :
    ∃ w', (r.withWork w r.dispatcher).move m =
        ((r.move m).1.withWork w' (r.move m).1.dispatcher, (r.move m).2) ∧
      (∀ p, w'.lanes.lane p = w.lanes.lane p ++ ofClass p (Trace.queued (r.move m).2)) ∧
      w'.Awake := by
  have hsame (w' : WorkQueue Request) (hlanes : w'.lanes = w.lanes) {es : Trace}
      (hes : es.queued = []) (p : Priority) :
      w'.lanes.lane p = w.lanes.lane p ++ ofClass p es.queued := by
    rw [hes, hlanes, ofClass_nil, List.append_nil]
  cases hm : m.looksAtWork with
  | false =>
    have hmove := r.move_withWork r.queue r.dispatcher m hm
    have hdispatcher : (r.move m).1.dispatcher = r.dispatcher :=
      congrArg (fun o : Outcome => o.1.dispatcher) hmove
    refine ⟨_, ?_, w.lane_pushAll _, hw.pushAll _⟩
    rw [hdispatcher]
    exact r.move_withWork w r.dispatcher m hm
  | true =>
    have hqueued := queued_of_looksAtWork (step_move r m) hm
    cases m with
    | input i =>
      cases i with
      | drain => exact absurd rfl hdrain
      | startDispatcher =>
        refine ⟨w, ?_, hsame w rfl hqueued, hw⟩
        simp only [move, apply, withWork_dispatcher]
        by_cases h : r.dispatcher = .unstarted
        · simp only [h, if_true]
          rfl
        · simp only [h, if_false]
      | _ => cases hm
    | turn t =>
      cases t with
      | take => exact absurd rfl htake
      | record =>
        refine ⟨w, ?_, hsame w rfl hqueued, hw⟩
        simp only [move, turn?, r.record_withWork w]
        cases r.record? <;> rfl
      | write =>
        refine ⟨w, ?_, hsame w rfl hqueued, hw⟩
        simp only [move, turn?, r.write_withWork w]
        cases r.write? <;> rfl
      | stopDispatcher =>
        obtain ⟨w', hstop, hw'⟩ := r.stopDispatcher_withWork w
        have hlanes : w'.lanes = w.lanes := by
          rcases hw' with rfl | rfl
          · rfl
          · exact w.lanes_cancel
        refine ⟨w', ?_, hsame w' hlanes hqueued, ?_⟩
        · exact hstop
        · rcases hw' with rfl | rfl
          · exact hw
          · exact .cancel w
      | _ => cases hm

/-- The dispatcher's turn at the queue: it takes the next request if it is idle and there is one,
and otherwise changes at most how the wait stands. -/
theorem move_take {r : Relay} (hr : r.queue.Awake) :
    (∃ p q l w, r.dispatcher = .idle ∧ r.queue.lanes.pop? = some ((p, q), l) ∧
      r.move (.turn .take) = (r.withWork w (.holding p q), [.taken p q]) ∧ w.lanes = l ∧ w.Awake) ∨
    ((r.dispatcher = .idle → r.queue.lanes.pop? = none) ∧
      ∃ w, r.move (.turn .take) = (r.withWork w r.dispatcher, []) ∧ w.lanes = r.queue.lanes ∧
        w.Awake) := by
  by_cases hidle : r.dispatcher = .idle
  · cases hpop : r.queue.lanes.pop? with
    | some next =>
      obtain ⟨⟨p, q⟩, l⟩ := next
      obtain ⟨hawake, hpoll⟩ := WorkQueue.poll_of_pop? hr hpop
      have hturn : r.turn? .take = some (r.withWork { r.queue with lanes := l, waiter := .absent }
          (.holding p q), [.taken p q]) := by
        simp only [turn?, take?]
        rw [if_pos ⟨hidle, hawake⟩, hpoll]
        rfl
      exact .inl ⟨p, q, l, _, hidle, rfl, move_of_turn? hturn, rfl, fun h => by cases h⟩
    | none =>
      refine .inr ⟨fun _ => rfl, ?_⟩
      by_cases hasleep : r.queue.waiter = .asleep
      · refine ⟨r.queue, move_of_turn?_none ?_, rfl, hr⟩
        simp only [turn?, take?]
        rw [if_neg fun h => h.2 hasleep]
      · obtain ⟨hnone, hlanes, -⟩ := WorkQueue.poll_of_empty hpop
        have hturn : r.turn? .take = some (r.withWork r.queue.poll.2 r.dispatcher, []) := by
          simp only [turn?, take?]
          rw [if_pos ⟨hidle, hasleep⟩, show r.queue.poll = (none, r.queue.poll.2) from
            Prod.ext hnone rfl]
          rfl
        exact ⟨_, move_of_turn? hturn, hlanes, hr.poll⟩
  · refine .inr ⟨fun h => absurd h hidle, r.queue, move_of_turn?_none ?_, rfl, hr⟩
    simp only [turn?, take?]
    rw [if_neg fun h => hidle h.1]

theorem awake_move {r : Relay} (hr : r.queue.Awake) (m : Move) : (r.move m).1.queue.Awake := by
  by_cases htake : m = .turn .take
  · subst htake
    rcases move_take hr with ⟨p, q, l, w, -, -, hmove, -, hawake⟩ | ⟨-, w, hmove, -, hawake⟩ <;>
      rw [hmove] <;> exact hawake
  · by_cases hdrain : m = .input .drain
    · subst hdrain
      exact .drain _
    · obtain ⟨w', hmove, -, hawake⟩ := r.move_of_queue hr htake hdrain
      rw [withWork_self] at hmove
      rw [hmove]
      exact hawake

/-- A wait never sleeps while there is a request to take. -/
theorem awake_final {r : Relay} (hr : r.Fresh) (ms : List Move) : (r.final ms).queue.Awake := by
  induction ms using List.reverseRecOn with
  | nil =>
    rw [final_nil, hr.queue]
    exact .empty
  | append_singleton ms m ih =>
    rw [final_append]
    exact awake_move ih m

/-- Without a drain or a take the lanes only grow. -/
theorem lane_move {r : Relay} (hr : r.queue.Awake) {m : Move} (htake : m ≠ .turn .take)
    (hdrain : m ≠ .input .drain) (p : Priority) :
    (r.move m).1.queue.lanes.lane p =
      r.queue.lanes.lane p ++ ofClass p (Trace.queued (r.move m).2) := by
  obtain ⟨w', hmove, hlane, -⟩ := r.move_of_queue hr htake hdrain
  rw [withWork_self] at hmove
  rw [← hlane p, congrArg (fun o : Outcome => o.1.queue) hmove]
  rfl

end Relay

end ModbusRelay
