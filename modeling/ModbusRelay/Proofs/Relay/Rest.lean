import Mathlib.Algebra.Order.Ring.Nat
import ModbusRelay.Proofs.Relay.Settle

/-!
Left to themselves, the workers of a relay come to rest.

`effort` counts what there is to be done, so that each turn that a worker can take makes it less
(`effort_turn`): bytes that are read become a request or a response, which weighs less than the bytes
of a frame, and a request or a response is passed on step by step. So without anything new from
outside no more turns can be taken than the effort says, in whatever order they are taken
(`length_of_taking`). The fixed order of turns allows for as many (`effort_le_workload`), so it does
not stop before the relay is at rest (`quiet_settle`).
-/

namespace ModbusRelay

/-! ## Effort -/

/-- How many turns a connection is away from its end. -/
def SessionPhase.effort : SessionPhase → Nat
  | .waiting => 3
  | .accepted => 2
  | .serving => 1
  | .ended => 0

/-- The way to the end of the connection, the bytes that it has to read, and the response that it
has to write. -/
def Connection.effort (k : Connection) : Nat :=
  k.phase.effort + k.input.buffer.length + k.inHand.toList.length

/-- What the connection has to do, and to take each response out of the mailbox and to write it. -/
def Client.effort (x : Client) : Nat :=
  (x.connection.map (·.effort)).getD 0 + 2 * x.mailbox.frames.length

/-- How many turns the dispatcher may take before it waits again, and one to stop. -/
def Dispatcher.effort : Dispatcher → Nat
  | .unstarted | .idle => 2
  | .holding .. => 4
  | .writing _ => 3
  | .ended => 0

/-- To listen again after a rest is a turn, to stop is one, and to end is one. -/
def Acceptor.effort : Acceptor → Nat
  | .resting => 3
  | .listening => 2
  | .joining => 1
  | .closed => 0

/-- Each entry is taken, recorded and written, and in the end the wait sleeps. -/
def WorkQueue.effort {α : Type} (q : WorkQueue α) : Nat :=
  3 * q.size + if q.waiter = .asleep then 0 else 1

/-- What is to be done in a relay. -/
def Relay.effort (r : Relay) : Nat :=
  (r.clients.map Client.effort).sum + r.queue.effort + r.device.input.buffer.length
    + r.dispatcher.effort + r.routing.toNat + 2 * r.acceptFailures + r.acceptor.effort

/-! ## The parts -/

/-- A frame is no less than a header. -/
theorem Frame.headerSize_le (f : Frame) : headerSize ≤ f.bytes.length := by
  obtain ⟨t1, t0, p1, p0, n1, n0, unit, rest, hbytes, -⟩ := Header.parse_ok f.parse_bytes
  rw [hbytes]
  simp [headerSize]

theorem FrameReader.length_next {r r' : FrameReader} {f : Frame}
    (h : r.next = (.item (.frame f), r')) :
    r'.buffer.length + headerSize ≤ r.buffer.length := by
  have hsize := f.headerSize_le
  rw [(next_eq_frame_iff.mp h).1, List.length_append, Frame.encode]
  omega

namespace WorkQueue

variable {α : Type} {q q' : WorkQueue α}

theorem effort_push (q : WorkQueue α) (p : Priority) (a : α) :
    (q.push p a).effort ≤ q.effort + 4 := by
  have hsize : (q.push p a).size = q.size + 1 := by
    unfold push wake size Lanes.size Lanes.push
    dsimp only
    split <;> cases p <;> simp <;> omega
  unfold effort
  rw [hsize]
  split <;> split <;> omega

theorem effort_of_lanes (same : q'.lanes = q.lanes) : q'.effort ≤ q.effort + 1 := by
  have hsize : q'.size = q.size := congrArg Lanes.size same
  unfold effort
  rw [hsize]
  split <;> split <;> omega

theorem effort_of_asleep (same : q'.lanes = q.lanes) (awake : q.waiter ≠ .asleep)
    (asleep : q'.waiter = .asleep) : q'.effort < q.effort := by
  have hsize : q'.size = q.size := congrArg Lanes.size same
  simp only [effort, hsize, awake, asleep, if_true, if_false]
  omega

theorem effort_of_pop? {p : Priority} {a : α} (pop : q.lanes.pop? = some ((p, a), q'.lanes))
    (awake : q.waiter ≠ .asleep) : q'.effort + 3 ≤ q.effort := by
  have hsize : q.size = q'.size + 1 := by
    unfold size
    rw [← Lanes.length_toList, Lanes.toList_pop? pop, List.length_cons, Lanes.length_toList]
  simp only [effort, hsize, awake, if_false]
  split <;> omega

end WorkQueue

namespace Client

variable {x : Client} {k : Connection} {phase : SessionPhase}

theorem effort_hangUp (hphase : x.phase? = some phase) (h : phase ≠ .ended) :
    x.hangUp.effort < x.effort := by
  obtain ⟨k, hk, rfl⟩ := Option.map_eq_some_iff.mp hphase
  have hpos : 0 < k.phase.effort := by
    revert h
    cases k.phase <;> simp [SessionPhase.effort]
  have hended : SessionPhase.ended.effort = 0 := rfl
  simp only [effort, hangUp, Mailbox.close, hk, Option.map_some, Option.getD_some,
    Connection.effort, hended, List.length_nil, Option.toList_none]
  omega

theorem effort_withPhase (hphase : x.phase? = some phase) (later : SessionPhase)
    (h : later.effort < phase.effort) :
    (x.withConnection ({ · with phase := later })).effort < x.effort := by
  obtain ⟨k, hk, rfl⟩ := Option.map_eq_some_iff.mp hphase
  simp only [effort, withConnection, hk, Option.map_some, Option.getD_some, Connection.effort]
  omega

theorem effort_read {f : Frame} {input : FrameReader} (hk : x.connection = some k)
    (next : k.input.next = (.item (.frame f), input)) :
    (x.withConnection ({ · with input })).effort + headerSize ≤ x.effort := by
  have hlength := FrameReader.length_next next
  simp only [effort, withConnection, hk, Option.map_some, Option.getD_some, Connection.effort]
  omega

theorem effort_fetched {f : Frame} {mailbox : Mailbox} (hk : x.connection = some k)
    (free : k.inHand = none) (taken : x.mailbox.take? = some (f, mailbox)) :
    (withConnection { x with mailbox } ({ · with inHand := some f })).effort < x.effort := by
  unfold Mailbox.take? at taken
  split at taken
  · next f' frames hframes =>
    cases taken
    simp only [effort, withConnection, hk, hframes, free, Option.map_some, Option.getD_some,
      Connection.effort, List.length_cons, Option.toList_none, Option.toList_some,
      List.length_nil]
    omega
  · cases taken

theorem effort_delivered {f : Frame} (hk : x.connection = some k) (inHand : k.inHand = some f)
    (output : Connection → List UInt8) :
    (x.withConnection fun k => { k with inHand := none, output := output k }).effort
      < x.effort := by
  simp only [effort, withConnection, hk, inHand, Option.map_some, Option.getD_some,
    Connection.effort, Option.toList_none, Option.toList_some, List.length_cons, List.length_nil]
  omega

theorem effort_offered (x : Client) (f : Frame) :
    effort { x with mailbox := (x.mailbox.offer f).2 } ≤ x.effort + 2 := by
  have hframes : (x.mailbox.offer f).2.frames.length ≤ x.mailbox.frames.length + 1 := by
    unfold Mailbox.offer
    split
    · split <;> simp
    · simp
  simp only [effort]
  omega

end Client

/-- A sum in which one term is another. -/
theorem sum_map_modify {α : Type} (g : α → Nat) (change : α → α) {xs : List α} {i : Nat} {x : α}
    (h : xs[i]? = some x) :
    ((xs.modify i change).map g).sum + g x = (xs.map g).sum + g (change x) := by
  induction xs generalizing i with
  | nil => cases h
  | cons y xs ih =>
    cases i with
    | zero =>
      obtain rfl := Option.some.inj h
      simp only [List.modify_zero_cons, List.map_cons, List.sum_cons]
      omega
    | succ i =>
      have ih := ih (i := i) h
      simp only [List.modify_succ_cons, List.map_cons, List.sum_cons]
      omega

namespace Relay

variable {r : Relay}

theorem effort_withClient {c : Nat} {x : Client} (found : r.client? c = some x)
    (change : Client → Client) :
    (r.withClient c change).effort + x.effort = r.effort + (change x).effort := by
  have hsum := sum_map_modify Client.effort change found
  unfold effort withClient
  dsimp only
  omega

/-- What a session does shows in the effort of its client. -/
theorem effort_withClient_lt {c : Nat} {x : Client} {change : Client → Client}
    (found : r.client? c = some x) (hlt : (change x).effort < x.effort) :
    (r.withClient c change).effort < r.effort := by
  have hwith := effort_withClient found change
  omega

theorem effort_withResponse {f : Frame} {input : FrameReader}
    (next : r.device.input.next = (.item (.frame f), input)) :
    (r.withResponse f input).effort + headerSize ≤ r.effort := by
  have hlength := FrameReader.length_next next
  unfold effort withResponse
  dsimp only
  omega

theorem effort_offer (r : Relay) (who : Requester) (f : Frame) :
    (r.offer who f).1.effort ≤ r.effort + 2 := by
  unfold offer
  cases found : r.client? who.client with
  | none => exact Nat.le_add_right _ 2
  | some x =>
    have hwith := effort_withClient found ({ · with mailbox := (x.mailbox.offer f).2 })
    have hoffered := x.effort_offered f
    dsimp only at hwith ⊢
    omega

/-- To turn away those who wait is no effort. -/
theorem effort_turnAway (xs : List Client) :
    ((xs.map fun x => if x.phase? = some .waiting then x.hangUp else x).map Client.effort).sum
      ≤ (xs.map Client.effort).sum := by
  induction xs with
  | nil => exact Nat.le_refl _
  | cons x xs ih =>
    have hx : (if x.phase? = some .waiting then x.hangUp else x).effort ≤ x.effort := by
      split
      · next h => exact Nat.le_of_lt (Client.effort_hangUp h (by simp))
      · exact Nat.le_refl _
    simp only [List.map_cons, List.sum_cons] at ih ⊢
    omega

/-! ## Turns -/

theorem Turned.effort_lt {t : Turn} {r' : Relay} {es : List RelayEvent} (h : Turned r t r' es) :
    r'.effort < r.effort := by
  cases h with
  | missed routing next =>
    have hresponse := effort_withResponse next
    dsimp only [headerSize] at hresponse
    omega
  | @offered f input who routing next =>
    have hresponse := effort_withResponse next
    have hoffer := (r.withResponse f input).effort_offer who f
    dsimp only [headerSize] at hresponse
    omega
  | lost routing =>
    unfold effort loseDevice
    simp [routing]
  | slept _ awake _ same asleep =>
    have hqueue := WorkQueue.effort_of_asleep same awake asleep
    unfold effort
    dsimp only
    omega
  | @taken p q queue idle awake pop =>
    have hqueue := WorkQueue.effort_of_pop? pop awake
    unfold effort
    simp only [idle, Dispatcher.effort]
    omega
  | recorded holding | displaced holding | refused holding =>
    unfold effort
    simp only [holding, Dispatcher.effort]
    omega
  | forwarded writing | unwritten writing =>
    unfold effort
    simp only [writing, Dispatcher.effort]
    omega
  | began found accepted =>
    exact effort_withClient_lt found (Client.effort_withPhase accepted .serving (by decide))
  | @read c x k f input found serving connection free next =>
    have hread := Client.effort_read connection next
    have hwith := effort_withClient found (·.withConnection ({ · with input }))
    have hpush := r.queue.effort_push (.ofPeer x.peer) ⟨⟨c, x.peer⟩, f⟩
    unfold effort withClient at hwith ⊢
    dsimp only [headerSize] at hread hwith ⊢
    omega
  | readFailed found serving | finished found serving | undelivered found serving
  | sessionStopped _ found serving | sessionInterrupted _ found serving =>
    exact effort_withClient_lt found (Client.effort_hangUp serving (by simp))
  | fetched found _ connection free taken =>
    exact effort_withClient_lt found (Client.effort_fetched connection free taken)
  | delivered found _ connection inHand =>
    exact effort_withClient_lt found (Client.effort_delivered connection inHand _)
  | accepted _ found waiting =>
    exact effort_withClient_lt found (Client.effort_withPhase waiting .accepted (by decide))
  | acceptFailed listening failures =>
    unfold effort
    simp only [listening, Acceptor.effort]
    omega
  | rested resting =>
    unfold effort
    simp only [resting, Acceptor.effort]
    omega
  | routerStopped _ routing =>
    unfold effort
    simp [routing]
  | dispatcherUnused _ unstarted =>
    unfold effort
    simp only [unstarted, Dispatcher.effort]
    omega
  | @dispatcherStopped queue _ free running same =>
    have hqueue := WorkQueue.effort_of_lanes same
    have hdispatcher : 2 ≤ r.dispatcher.effort := by
      revert running
      cases r.dispatcher <;> simp [Dispatcher.effort]
    have hended : Dispatcher.ended.effort = 0 := rfl
    unfold effort
    simp only [hended]
    omega
  | acceptorStopped _ listening =>
    have hsum := effort_turnAway r.clients
    unfold effort
    simp only [listening, Acceptor.effort]
    omega
  | joined joining =>
    unfold effort
    simp only [joining, Acceptor.effort]
    omega

/-- Each turn that can be taken leaves less to be done. -/
theorem effort_turn {t : Turn} {o : Outcome} (h : r.turn? t = some o) : o.1.effort < r.effort :=
  (turned h).effort_lt

/-! ## Taking turns -/

/-- The relay after these turns; `none` if one of them cannot be taken. -/
def taking (r : Relay) : List Turn → Option Relay
  | [] => some r
  | t :: ts => (r.turn? t).bind fun o => taking o.1 ts

/-- No more turns can be taken than the effort says, whatever the order. -/
theorem length_of_taking {s : Relay} {ts : List Turn} (h : r.taking ts = some s) :
    ts.length + s.effort ≤ r.effort := by
  induction ts generalizing r with
  | nil =>
    obtain rfl := Option.some.inj h
    simp
  | cons t ts ih =>
    obtain ⟨o, ho, hrest⟩ := Option.bind_eq_some_iff.mp h
    have hturn := effort_turn ho
    have ih := ih hrest
    rw [List.length_cons]
    omega

/-- Turns that can be taken are a run. -/
theorem final_of_taking {s : Relay} {ts : List Turn} (h : r.taking ts = some s) :
    r.final (ts.map .turn) = s := by
  induction ts generalizing r with
  | nil => exact Option.some.inj h
  | cons t ts ih =>
    obtain ⟨o, ho, hrest⟩ := Option.bind_eq_some_iff.mp h
    rw [List.map_cons, final_cons, move_of_turn? ho]
    exact ih hrest

/-! ## The fixed order of turns -/

theorem effort_clients_le (xs : List Client) : (xs.map Client.effort).sum ≤
    (xs.flatMap fun x => (x.connection.map (·.input.buffer)).getD []).length
      + 2 * (xs.flatMap (·.mailbox.frames)).length + 4 * xs.length := by
  induction xs with
  | nil => exact Nat.le_refl _
  | cons x xs ih =>
    have hx : x.effort ≤ ((x.connection.map (·.input.buffer)).getD []).length
        + 2 * x.mailbox.frames.length + 4 := by
      obtain ⟨peer, mailbox, _ | k⟩ := x
      · simp [Client.effort]
      · have hphase : k.phase.effort ≤ 3 := by cases k.phase <;> decide
        have hhand : k.inHand.toList.length ≤ 1 := by cases k.inHand <;> simp
        simp only [Client.effort, Option.map_some, Option.getD_some, Connection.effort]
        omega
    simp only [List.map_cons, List.sum_cons, List.flatMap_cons, List.length_append,
      List.length_cons]
    omega

theorem length_le_bytes (qs : List Request) :
    qs.length ≤ (qs.flatMap (·.frame.bytes)).length := by
  induction qs with
  | nil => exact Nat.le_refl _
  | cons q qs ih =>
    have hframe := q.frame.headerSize_le
    rw [List.flatMap_cons, List.length_append, List.length_cons]
    dsimp only [headerSize] at hframe
    omega

/-- The limit for settling is no limit. -/
theorem effort_le_workload (r : Relay) : r.effort ≤ r.workload := by
  have hclients := effort_clients_le r.clients
  have hqueued := length_le_bytes r.queue.lanes.toList
  have hqueue : r.queue.effort ≤ 3 * r.queue.lanes.toList.length + 1 := by
    rw [Lanes.length_toList]
    unfold WorkQueue.effort WorkQueue.size
    split <;> omega
  have hdispatcher : r.dispatcher.effort ≤ 4 := by
    cases r.dispatcher <;> simp [Dispatcher.effort]
  have hacceptor : r.acceptor.effort ≤ 3 := by cases r.acceptor <;> decide
  have hrouting : r.routing.toNat ≤ 1 := Bool.toNat_le _
  unfold effort workload
  dsimp only
  omega

/-- A device that sends nothing changes nothing. -/
theorem apply_deviceSends_nil (r : Relay) : r.apply (.deviceSends []) = (r, []) := by
  have hfeed (x : FrameReader) : x.feed [] = x := by
    unfold FrameReader.feed
    split
    · rfl
    · rw [List.append_nil]
  simp only [apply, withDeviceInput, hfeed]
  split <;> rfl

theorem quiet_settleWithin {fuel : Nat} (h : r.effort ≤ fuel) :
    (settleWithin (fun _ => []) fuel r).1.Quiet := by
  induction fuel generalizing r with
  | zero =>
    intro t
    cases ht : r.turn? t with
    | none => exact ht
    | some o =>
      have := effort_turn ht
      omega
  | succ fuel ih =>
    unfold settleWithin
    cases hnext : r.nextTurn? with
    | none => exact nextTurn?_eq_none_iff.mp hnext
    | some o =>
      obtain ⟨t, -, ht⟩ := List.exists_of_findSome?_eq_some hnext
      obtain ⟨next, events⟩ := o
      have hturn := effort_turn ht
      dsimp only at hturn ⊢
      have hrest := ih (r := next) (by omega)
      rw [apply_deviceSends_nil]
      exact hrest

/-- With a silent device a relay comes to rest. -/
theorem quiet_settle (r : Relay) : r.settle.1.Quiet := quiet_settleWithin r.effort_le_workload

theorem quiet_after (r : Relay) (i : Input) : (r.after i).1.Quiet := quiet_settle _

end Relay

end ModbusRelay
