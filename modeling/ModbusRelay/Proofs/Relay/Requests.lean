import ModbusRelay.Proofs.Metrics.Counters
import ModbusRelay.Proofs.Relay.Output
import ModbusRelay.Proofs.Relay.Settle
import ModbusRelay.Proofs.Relay.Work

/-!
No request disappears.

Until the relay is cancelled, every request that was queued is still on the queue or in the hand of
the dispatcher, or it was thrown away with the queue, written to the device, refused by the table or
lost in a write that failed. `balance_move` says so for one move and `requests_balance` for a run.
The counters are the lengths of some of these lists (`no_request_disappears`).

The dispatcher survives whatever happens to its requests (`dispatcher_ne_ended`), and it never
sleeps while there is one to take. So when no worker can take a turn, it has nothing left to do
(`nothing_left_of_quiet`).
-/

namespace ModbusRelay

/-- The request that the dispatcher is done with. -/
def RelayEvent.settled? : RelayEvent → Option Request
  | .forwarded q | .refused q _ | .forwardFailed q _ => some q
  | _ => none

namespace Trace

/-- The requests that the dispatcher is done with. -/
abbrev settled (es : Trace) : List Request := es.filterMap RelayEvent.settled?

/-- The dispatcher is done with the requests that it has written, those that were refused and those
whose write has failed. -/
theorem settled_perm (es : Trace) :
    es.settled.Perm (es.forwarded ++ es.refused.map (·.1) ++ es.unwritten) := by
  induction es with
  | nil => exact .refl _
  | cons e es ih =>
    cases e with
    | forwarded q => exact ih.cons q
    | refused q cause =>
      refine (ih.cons q).trans ?_
      show (q :: (forwarded es ++ (refused es).map (·.1) ++ unwritten es)).Perm
        (forwarded es ++ q :: (refused es).map (·.1) ++ unwritten es)
      rw [List.append_assoc, List.append_assoc]
      exact List.perm_middle.symm
    | forwardFailed q cause =>
      refine (ih.cons q).trans ?_
      exact List.perm_middle.symm
    | _ => exact ih

theorem losses_append (es es' : Trace) : (es ++ es').losses = es.losses ++ es'.losses :=
  List.filterMap_append

theorem settled_aside {es : Trace} (h : ∀ e ∈ es, e.isAside) : es.settled = [] :=
  filterMap_of_kind h fun e he => by cases e <;> first | rfl | cases he

theorem losses_aside {es : Trace} (h : ∀ e ∈ es, e.isAside) : es.losses = [] :=
  filterMap_of_kind h fun e he => by cases e <;> first | rfl | cases he

theorem deviceLost_mem_iff {es : Trace} : .deviceLost ∈ es ↔ 0 < es.losses.length := by
  rw [List.length_pos_iff_exists_mem]
  constructor
  · exact fun h => ⟨(), List.mem_filterMap.mpr ⟨.deviceLost, h, rfl⟩⟩
  · rintro ⟨u, h⟩
    obtain ⟨e, he, hlost⟩ := List.mem_filterMap.mp h
    cases e <;> first | exact he | cases hlost

end Trace

/-- Entries that are classed by what they are. -/
theorem ofClass_map {α : Type} (classOf : α → Priority) (p : Priority) (xs : List α) :
    ofClass p (xs.map fun a => (classOf a, a)) = xs.filter (classOf · = p) := by
  induction xs with
  | nil => rfl
  | cons a xs ih =>
    rw [List.map_cons, ofClass_cons, ih, List.filter_cons]
    by_cases h : classOf a = p <;> simp [h]

/-- A push adds the entry to the others. -/
theorem Lanes.toList_push_perm {α : Type} (l : Lanes α) (p : Priority) (a : α) :
    (l.push p a).toList.Perm (a :: l.toList) := by
  cases p with
  | high =>
    show (l.high ++ [a] ++ l.normal).Perm (a :: (l.high ++ l.normal))
    rw [List.append_assoc]
    exact List.perm_middle
  | normal =>
    show (l.high ++ (l.normal ++ [a])).Perm (a :: (l.high ++ l.normal))
    rw [← List.append_assoc]
    exact List.perm_append_singleton _ _

namespace Relay

/-- The requests that a move throws away with the queue. -/
def drains (r : Relay) (m : Move) : List Request := if m = .input .drain then r.drain.1 else []

/-- The request that a move of a session reads from its client. -/
def framesRead (r : Relay) : Move → List Request
  | .turn (.intake c) =>
    match r.freeSession? c with
    | some (who, _, k) =>
      match k.input.next.1 with
      | .item (.frame f) => [⟨who, f⟩]
      | _ => []
    | none => []
  | _ => []

/-- The requests that the dispatcher still has to do with. -/
def unsettled (r : Relay) : List Request := r.queue.lanes.toList ++ r.dispatcher.inHand

variable {r : Relay}

/-! ## Where the requests are -/

/-- A move that is neither a drain nor a stop of the dispatcher loses no request. -/
theorem balance_step {r' : Relay} {m : Move} {es : Trace} (hs : Step r m r' es)
    (hdrain : m ≠ .input .drain) (hstops : m.stops = false) :
    (es.queued.map (·.2) ++ r.unsettled).Perm (r'.unsettled ++ es.settled) := by
  have hquiet (hqueued : es.queued = []) (hsettled : es.settled = [])
      (hsame : r'.unsettled = r.unsettled) :
      (es.queued.map (·.2) ++ r.unsettled).Perm (r'.unsettled ++ es.settled) := by
    rw [hqueued, hsettled, hsame, List.append_nil]
    exact .refl _
  have hpush (p : Priority) (q : Request) (hqueued : es.queued = [(p, q)])
      (hsettled : es.settled = []) (hqueue : r'.queue = r.queue.push p q)
      (hsame : r'.dispatcher = r.dispatcher) :
      (es.queued.map (·.2) ++ r.unsettled).Perm (r'.unsettled ++ es.settled) := by
    unfold unsettled
    rw [hqueued, hsettled, hqueue, hsame, WorkQueue.lanes_push, List.append_nil]
    exact ((Lanes.toList_push_perm _ p q).append_right _).symm
  have hsettle (q : Request) (hqueued : es.queued = []) (hsettled : es.settled = [q])
      (hqueue : r'.queue = r.queue) (hheld : r.dispatcher.inHand = [q])
      (hfree : r'.dispatcher.inHand = []) :
      (es.queued.map (·.2) ++ r.unsettled).Perm (r'.unsettled ++ es.settled) := by
    unfold unsettled
    rw [hqueued, hsettled, hqueue, hheld, hfree, List.append_nil]
    exact .refl _
  cases hs with
  | aside _ _ _ _ _ _ quiet =>
    exact hquiet (Trace.queued_aside quiet) (Trace.settled_aside quiet) rfl
  | pushed => exact hpush _ _ rfl rfl rfl rfl
  | received => exact hpush _ _ rfl rfl rfl rfl
  | drained => exact absurd rfl hdrain
  | deviceSent | deviceEnded => exact hquiet rfl rfl (by simp [unsettled])
  | started unstarted => exact hquiet rfl rfl (by simp [unsettled, unstarted, Dispatcher.inHand])
  | routed _ _ _ verdict =>
    refine hquiet (verdict.trace _).2.1
      (Trace.filterMap_of_kind (verdict.isPassing _) fun e he => ?_) rfl
    cases e <;> first | rfl | cases he
  | lost _ told =>
    refine hquiet (r.trace_loseDevice told).2.2.1
      (Trace.filterMap_of_kind (r.isLoss_loseDevice told) fun e he => ?_) rfl
    cases e <;> first | rfl | cases he
  | slept _ _ same => exact hquiet rfl rfl (by simp [unsettled, same])
  | taken idle pop =>
    show ([] ++ (r.queue.lanes.toList ++ r.dispatcher.inHand)).Perm (_ ++ [_] ++ [])
    rw [idle, Lanes.toList_pop? pop]
    simpa [Dispatcher.inHand] using (List.perm_append_singleton _ _).symm
  | recorded holding | displaced holding =>
    exact hquiet rfl rfl (by simp [unsettled, holding, Dispatcher.inHand])
  | refused holding => exact hsettle _ rfl rfl rfl (by rw [holding]; rfl) rfl
  | forwarded writing | unwritten writing =>
    exact hsettle _ rfl rfl rfl (by rw [writing]; rfl) rfl
  | registered | deviceBroke => exact hquiet rfl rfl rfl
  | routerStopped | dispatcherUnused | dispatcherStopped => cases hstops

/-- What a move queues and what the dispatcher had to do with before, it has to do with after, or it
is drained or done with. -/
theorem balance_move (hr : r.cancelled = false) (m : Move) :
    (Trace.queued (r.move m).2 |>.map (·.2)) ++ r.unsettled |>.Perm
      ((r.move m).1.unsettled ++ r.drains m ++ Trace.settled (r.move m).2) := by
  by_cases hdrain : m = .input .drain
  · subst hdrain
    show (r.queue.lanes.toList ++ r.dispatcher.inHand).Perm
      ([] ++ r.dispatcher.inHand ++ r.queue.lanes.toList ++ [])
    rw [List.append_nil]
    exact List.perm_append_comm
  · have hnone : r.drains m = [] := if_neg hdrain
    rw [hnone, List.append_nil]
    cases hstops : m.stops with
    | true =>
      rw [move_of_stops hr hstops]
      simp
    | false => exact balance_step (step_move r m) hdrain hstops

/-- Every request that was queued has still to be dealt with, or was drained, or is done with. -/
theorem requests_balance (hr : r.Fresh) {ms : List Move} (hms : .input .cancel ∉ ms) :
    ((r.trace ms).queued.map (·.2)).Perm
      ((r.final ms).unsettled ++ r.yields drains ms ++ (r.trace ms).settled) := by
  have hnone : r.unsettled = [] := by
    unfold unsettled
    rw [hr.queue]
    rcases hr.dispatcher with h | h <;> rw [h] <;> rfl
  have hrun := balance_of_moves unsettled (fun s m => (Trace.queued (s.move m).2).map (·.2))
    (fun s m => s.drains m ++ Trace.settled (s.move m).2) (r := r) fun ps m hm => by
      have hps : .input .cancel ∉ ps := fun h => hms (hm.subset (List.mem_append_left _ h))
      have hcancelled : (r.final ps).cancelled = false := by
        rw [cancelled_final hps, hr.cancelled]
      rw [← List.append_assoc]
      exact balance_move hcancelled m
  have hqueued : r.yields (fun s m => (Trace.queued (s.move m).2).map (·.2)) ms =
      (r.trace ms).queued.map (·.2) := by
    rw [yields_map, yields_events]
  rw [hnone, List.append_nil, hqueued] at hrun
  have hsettled : r.yields (fun s m => Trace.settled (s.move m).2) ms = (r.trace ms).settled :=
    yields_events _ _ _
  rw [List.append_assoc, ← hsettled]
  exact hrun.trans ((yields_append_perm _ _ _ _).append_left _)

/-! ## The device and the dispatcher -/

/-- A router that gives the device up has ended, and unless it is stopped it ends in no other
way. -/
theorem losses_step {r' : Relay} {m : Move} {es : Trace} (hs : Step r m r' es) :
    es.losses.length + r'.routing.toNat ≤ r.routing.toNat ∧
      (m.stops = false → es.losses.length + r'.routing.toNat = r.routing.toNat) := by
  have hkeep (hnone : es.losses = []) (hsame : r'.routing = r.routing) :
      es.losses.length + r'.routing.toNat ≤ r.routing.toNat ∧
        (m.stops = false → es.losses.length + r'.routing.toNat = r.routing.toNat) := by
    rw [hnone, hsame, List.length_nil, Nat.zero_add]
    exact ⟨Nat.le_refl _, fun _ => rfl⟩
  cases hs with
  | aside _ _ _ _ _ _ quiet => exact hkeep (Trace.losses_aside quiet) rfl
  | deviceSent | deviceEnded => exact hkeep rfl (by simp)
  | routed _ _ _ verdict =>
    refine hkeep (Trace.filterMap_of_kind (verdict.isPassing _) fun e he => ?_) rfl
    cases e <;> first | rfl | cases he
  | @lost cause routing told =>
    have hone : Trace.losses (cause :: r.loseDevice.2) = [()] := by
      unfold loseDevice
      rcases told with rfl | ⟨e, rfl⟩ <;> split <;> rfl
    rw [hone, routing]
    exact ⟨Nat.le_refl _, fun _ => rfl⟩
  | routerStopped => exact ⟨Nat.zero_le _, fun hstops => by cases hstops⟩
  | _ => exact hkeep rfl rfl

/-- The router gives the device up at most once. -/
theorem losses_le (hr : r.Fresh) (ms : List Move) : (r.trace ms).losses.length ≤ 1 := by
  have hrun : (r.trace ms).losses.length + (r.final ms).routing.toNat ≤ 1 := by
    refine run_induction (r := r)
      (P := fun s es => (Trace.losses es).length + s.routing.toNat ≤ 1) (by simp [hr.routing]) ?_ ms
    intro r₀ es₀ m r' es ih hs
    have hstep := (losses_step hs).1
    rw [Trace.losses_append, List.length_append]
    omega
  exact Nat.le_of_add_right_le hrun

/-- The router ends when it gives the device up, and at no other time. -/
theorem losses_eq (hr : r.Fresh) {ms : List Move} (hms : .input .cancel ∉ ms) :
    (r.trace ms).losses.length = if (r.final ms).routing then 0 else 1 := by
  have hrun : (r.trace ms).losses.length + (r.final ms).routing.toNat = 1 := by
    refine uncancelled_induction
      (P := fun s es => (Trace.losses es).length + s.routing.toNat = 1) hr.cancelled
      (by simp [hr.routing]) ?_ hms
    intro r₀ es₀ m r' es hstops ih hs
    have hstep := (losses_step hs).2 hstops
    rw [Trace.losses_append, List.length_append]
    omega
  cases hrouting : (r.final ms).routing with
  | true => simpa [hrouting] using hrun
  | false => simpa [hrouting] using hrun

/-- The dispatcher does not end. -/
theorem dispatcher_ne_ended (hr : r.Fresh) {ms : List Move} (hms : .input .cancel ∉ ms) :
    (r.final ms).dispatcher ≠ .ended := by
  refine uncancelled_induction (P := fun s _ => s.dispatcher ≠ .ended) hr.cancelled ?_ ?_ hms
  · rcases hr.dispatcher with h | h <;> simp [h]
  · intro r₀ es₀ m r' es hstops ih hs
    cases hs with
    | deviceSent | deviceEnded => simpa using ih
    | routerStopped | dispatcherUnused | dispatcherStopped => cases hstops
    | started | taken | recorded | displaced | refused | forwarded | unwritten => simp
    | _ => exact ih

/-- As long as there is a request to deal with, the dispatcher has a turn to take. -/
theorem dispatcher_goes_on (hr : r.Fresh) {ms : List Move} (hms : .input .cancel ∉ ms)
    (hstarted : (r.final ms).dispatcher ≠ .unstarted) (hwork : (r.final ms).unsettled ≠ []) :
    ∃ t, (t = .take ∨ t = .record ∨ t = .write) ∧ (r.final ms).turn? t ≠ none := by
  have hawake := awake_final hr ms
  have hended := dispatcher_ne_ended hr hms
  generalize r.final ms = s at hstarted hwork hawake hended
  cases hdispatcher : s.dispatcher with
  | unstarted => exact absurd hdispatcher hstarted
  | ended => exact absurd hdispatcher hended
  | holding p q => exact ⟨.record, .inr (.inl rfl), by simp [turn?, record?, hdispatcher]⟩
  | writing q =>
    refine ⟨.write, .inr (.inr rfl), ?_⟩
    simp only [turn?, write?, hdispatcher]
    split <;> simp
  | idle =>
    have hlanes : s.queue.lanes.toList ≠ [] := by
      simpa [unsettled, hdispatcher, Dispatcher.inHand] using hwork
    cases hpop : s.queue.lanes.pop? with
    | none => exact absurd ((Lanes.pop?_eq_none_iff _).mp hpop) hlanes
    | some next =>
      -- The wait is awake and finds an entry, so the dispatcher can take it.
      obtain ⟨x, lanes⟩ := next
      obtain ⟨hwaiter, hpoll⟩ := WorkQueue.poll_of_pop? hawake hpop
      exact ⟨.take, .inl rfl, by simp [turn?, take?, hdispatcher, hwaiter, hpoll]⟩

/-- When no worker can take a turn, the dispatcher has dealt with everything. -/
theorem nothing_left_of_quiet (hr : r.Fresh) {ms : List Move} (hms : .input .cancel ∉ ms)
    (hstarted : (r.final ms).dispatcher ≠ .unstarted) (hquiet : (r.final ms).Quiet) :
    (r.final ms).unsettled = [] := by
  by_contra hwork
  obtain ⟨t, -, ht⟩ := dispatcher_goes_on hr hms hstarted hwork
  exact ht (hquiet t)

/-! ## What sessions read -/

/-- A session reads a frame just when a move says so. -/
theorem read_move (r : Relay) (m : Move) :
    (r.framesRead m).map (fun q => (Priority.ofPeer q.requester.peer, q)) =
      Trace.read (r.move m).2 := by
  have hnone (hm : r.framesRead m = []) (hread : Trace.read (r.move m).2 = []) :
      (r.framesRead m).map (fun q => (Priority.ofPeer q.requester.peer, q)) =
        Trace.read (r.move m).2 := by
    rw [hm, hread]
    rfl
  by_cases hintake : ∃ c, m = .turn (.intake c)
  · obtain ⟨c, rfl⟩ := hintake
    unfold framesRead
    dsimp only
    cases hfree : r.freeSession? c with
    | none =>
      rw [move_of_turn?_none (by simp [turn?, intake?, hfree])]
      rfl
    | some found =>
      obtain ⟨who, x, k⟩ := found
      obtain ⟨-, -, rfl, -⟩ := freeSession?_eq_some hfree
      rcases hnext : k.input.next with ⟨(f | e) | _ | _, input⟩ <;>
        simp [move, turn?, intake?, hfree, hnext, RelayEvent.read?]
  · have hread : Trace.read (r.move m).2 = [] := by
      have hs := step_move r m
      generalize (r.move m).1 = r' at hs
      generalize (r.move m).2 = es at hs ⊢
      cases hs with
      | aside _ _ _ _ _ _ quiet =>
        exact Trace.filterMap_of_kind quiet fun e he => by cases e <;> first | rfl | cases he
      | received => exact absurd ⟨_, rfl⟩ hintake
      | routed _ _ _ verdict =>
        refine Trace.filterMap_of_kind (verdict.isPassing _) fun e he => ?_
        cases e <;> first | rfl | cases he
      | lost _ told =>
        refine Trace.filterMap_of_kind (r.isLoss_loseDevice told) fun e he => ?_
        cases e <;> first | rfl | cases he
      | _ => rfl
    rw [hread]
    unfold framesRead
    split
    · exact absurd ⟨_, rfl⟩ hintake
    · rfl

/-- The requests that sessions of a class have read are those of the peers of that class. -/
theorem read_ofClass (r : Relay) (ms : List Move) (p : Priority) :
    ofClass p (r.trace ms).read =
      (r.yields framesRead ms).filter (fun q => Priority.ofPeer q.requester.peer = p) := by
  have hread : r.yields
      (fun s m => (s.framesRead m).map fun q => (Priority.ofPeer q.requester.peer, q)) ms =
        (r.trace ms).read :=
    yields_eq_filterMap _ _ fun ps m _ => (r.final ps).read_move m
  rw [← hread, yields_map, ofClass_map]

theorem isLoopback_iff (peer : SocketAddress) :
    Priority.ofPeer peer = .high ↔ peer.ip.isLoopback = true := by
  unfold Priority.ofPeer
  split <;> simp_all

/-- The counters of queued requests tell how many frames sessions on the machine itself and other
sessions have read. -/
theorem queued_counters (r : Relay) (ms : List Move) :
    (Metrics.ofEvents (r.trace ms)).queuedHigh =
        (r.yields framesRead ms).countP (·.requester.peer.ip.isLoopback) ∧
      (Metrics.ofEvents (r.trace ms)).queuedNormal =
        (r.yields framesRead ms).countP (!·.requester.peer.ip.isLoopback) := by
  rw [Metrics.queuedHigh_ofEvents, Metrics.queuedNormal_ofEvents, read_ofClass, read_ofClass,
    ← List.countP_eq_length_filter, ← List.countP_eq_length_filter]
  constructor <;> refine List.countP_congr fun q _ => ?_
  · rw [decide_eq_true_iff]
    exact isLoopback_iff _
  · have := isLoopback_iff q.requester.peer
    cases hp : Priority.ofPeer q.requester.peer <;> simp_all

/-! ## The requests of a run -/

/-- Each request that was queued is in just one of six places. -/
theorem requests_perm (hr : r.Fresh) {ms : List Move} (hms : .input .cancel ∉ ms) :
    ((r.trace ms).queued.map (·.2)).Perm
      ((r.final ms).queue.lanes.toList ++ r.yields drains ms ++ (r.trace ms).forwarded
        ++ (r.trace ms).refused.map (·.1) ++ (r.trace ms).unwritten
        ++ (r.final ms).dispatcher.inHand) := by
  rw [List.perm_iff_count]
  intro q
  have hall := List.perm_iff_count.mp (requests_balance hr hms) q
  have hsettled := List.perm_iff_count.mp (r.trace ms).settled_perm q
  simp only [unsettled, List.count_append] at hall hsettled ⊢
  omega

/-- **No request disappears.** In every run that is not cancelled each request that was queued is in
just one place: on the queue, in the hand of the dispatcher, or among those that were drained,
written, refused or not written; in numbers, the writes that have failed are the errors of the
device but for the one of a router that has given the device up. The counters of queued requests are
the numbers of frames that sessions on the machine itself and other sessions have read. And when no
worker can take a turn, a dispatcher that was started has nothing left to do. -/
theorem no_request_disappears (hr : r.Fresh) {ms : List Move} (hms : .input .cancel ∉ ms) :
    let s := r.final ms
    let es := r.trace ms
    let m := Metrics.ofEvents es
    let drained := r.yields drains ms
    let read := r.yields framesRead ms
    let lost := if s.routing then 0 else 1
    (es.queued.map (·.2)).Perm
      (s.queue.lanes.toList ++ drained ++ es.forwarded ++ es.refused.map (·.1) ++ es.unwritten
        ++ s.dispatcher.inHand) ∧
    (es.queued.length = s.queue.size + drained.length + m.forwarded + m.duplicateRejections
        + (m.downstreamErrors - lost) + s.dispatcher.inHand.length ∧
      s.dispatcher.inHand.length ≤ 1) ∧
    (lost ≤ m.downstreamErrors ∧ m.downstreamErrors - lost = es.unwritten.length ∧
      (s.routing = false ↔ .deviceLost ∈ es)) ∧
    (m.queuedHigh = read.countP (·.requester.peer.ip.isLoopback) ∧
      m.queuedNormal = read.countP (!·.requester.peer.ip.isLoopback)) ∧
    (s.dispatcher ≠ .unstarted → s.Quiet → s.queue.isEmpty = true ∧ s.dispatcher.inHand = []) := by
  intro s es m drained read lost
  have hlost : es.losses.length = lost := losses_eq hr hms
  have herrors : m.downstreamErrors = es.unwritten.length + lost := by
    rw [← hlost]
    exact Metrics.downstreamErrors_ofEvents es
  have hbalance : (es.queued.map (·.2)).Perm
      (s.queue.lanes.toList ++ drained ++ es.forwarded ++ es.refused.map (·.1) ++ es.unwritten
        ++ s.dispatcher.inHand) := requests_perm hr hms
  refine ⟨hbalance, ⟨?_, ?_⟩, ⟨by omega, by omega, ?_⟩, r.queued_counters ms,
    fun hstarted hquiet => ?_⟩
  · have hlength := hbalance.length_eq
    simp only [List.length_append, List.length_map, Lanes.length_toList] at hlength
    have hforwarded : m.forwarded = es.forwarded.length := Metrics.forwarded_ofEvents es
    have hrefused : m.duplicateRejections = es.refused.length :=
      Metrics.duplicateRejections_ofEvents es
    have hsize : s.queue.size = s.queue.lanes.size := rfl
    omega
  · cases s.dispatcher <;> simp [Dispatcher.inHand]
  · rw [Trace.deviceLost_mem_iff, hlost]
    cases h : s.routing <;> simp [lost, h]
  · have hnone := nothing_left_of_quiet hr hms hstarted hquiet
    obtain ⟨hqueue, hhand⟩ := List.append_eq_nil_iff.mp hnone
    obtain ⟨hhigh, hnormal⟩ := List.append_eq_nil_iff.mp hqueue
    refine ⟨?_, hhand⟩
    show (s.queue.lanes.high.isEmpty && s.queue.lanes.normal.isEmpty) = true
    rw [show s.queue.lanes.high = [] from hhigh, show s.queue.lanes.normal = [] from hnormal]
    rfl

/-- A frame without a session. -/
def unsessioned : Frame := ⟨[0, 5, 0, 0, 0, 2, 1, 3], ⟨5, 0, 2, 1⟩, rfl, rfl⟩

/-- Four requests of two sessions, and one that is put on the queue past them. The second request of
the remote session repeats an id, the one past the sessions is drained, and the device breaks and
then ends before the last request of the local session is written. -/
def everyWayOut : List Move :=
  [ .input (.serve ⟨.v4 10 0 0 9, 40000⟩), .input (.serve ⟨.v4 127 0 0 1, 40001⟩),
    .turn (.begin 0), .turn (.begin 1),
    .input (.clientSends 0 [0, 1, 0, 0, 0, 2, 1, 3, 0, 1, 0, 0, 0, 2, 1, 3]),
    .turn (.intake 0), .turn (.intake 0),
    .input (.clientSends 1 [0, 2, 0, 0, 0, 2, 1, 3]), .turn (.intake 1),
    .input .startDispatcher,
    .turn .take, .turn .record, .turn .write, .turn .take, .turn .record, .turn .write,
    .turn .take, .turn .record,
    .input (.push 0 .normal unsessioned), .input .drain,
    .input (.clientSends 1 [0, 3, 0, 0, 0, 2, 1, 3]), .turn (.intake 1),
    .turn .take, .turn .record, .input .deviceBreaks, .turn .write,
    .input (.deviceEnds .closed), .turn .route, .turn .take ]

/-- Two requests are written, one each is drained, refused and not written, and then all is quiet. -/
theorem requests_of_everyWayOut :
    let s := (ofSettings {}).final everyWayOut
    let es := (ofSettings {}).trace everyWayOut
    let m := Metrics.ofEvents es
    (ofSettings {}).Fresh ∧ .input .cancel ∉ everyWayOut ∧ s.dispatcher ≠ .unstarted ∧ s.Quiet ∧
      es.queued.length = 0 + 1 + 2 + 1 + (2 - 1) + 0 ∧
      m.queuedHigh = 2 ∧ m.queuedNormal = 2 ∧ .deviceLost ∈ es ∧ s.queue.isEmpty = true := by
  intro s es m
  have hms : .input .cancel ∉ everyWayOut := by decide
  have hstarted : s.dispatcher ≠ .unstarted := by decide +kernel
  have hquiet : s.Quiet := by decide +kernel
  obtain ⟨-, ⟨hqueued, -⟩, ⟨-, -, hlost⟩, ⟨hhigh, hnormal⟩, hnothing⟩ :=
    no_request_disappears (fresh_ofSettings {}) hms
  refine ⟨fresh_ofSettings {}, hms, hstarted, hquiet, hqueued.trans ?_, hhigh.trans ?_,
    hnormal.trans ?_, hlost.mp ?_, (hnothing hstarted hquiet).1⟩
  · decide +kernel
  · decide +kernel
  · decide +kernel
  · decide +kernel

end Relay

end ModbusRelay
