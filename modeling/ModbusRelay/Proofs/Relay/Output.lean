import ModbusRelay.Proofs.Relay.Run

/-!
What the device gets.

Three lists of requests go through a relay: those queued, those taken off the queue, and those
written to the device. The joint invariant `Accounted` ties them together in every state of a run:
in each class the requests taken and those still waiting are, in this order, among the requests
queued (`lanes`), and the requests written, with the one that the dispatcher has in hand, are among
those taken (`order`). The bytes that the device has got are the frames of the requests written
(`output`), and since frames say their own length the device can tell them apart again.

Nothing is assumed of the run, so all this also holds while a relay is cancelled and drained.
-/

namespace ModbusRelay

/-- The request that the dispatcher has taken and not yet done with. -/
def Dispatcher.inHand : Dispatcher → List Request
  | .holding _ q | .writing q => [q]
  | .unstarted | .idle | .ended => []

namespace Relay

/-- How the requests queued, taken and written hang together. -/
structure Accounted (r : Relay) (es : Trace) : Prop where
  output : r.device.output = es.forwarded.flatMap (·.frame.encode)
  lanes : ∀ p, (ofClass p es.taken ++ r.queue.lanes.lane p).Sublist (ofClass p es.queued)
  order : ∃ written hand : List (Priority × Request),
    written.map (·.2) = es.forwarded ∧ hand.map (·.2) = r.dispatcher.inHand ∧
      (written ++ hand).Sublist es.taken

theorem accounted_start {r : Relay} (hr : r.Fresh) : r.Accounted [] where
  output := by rw [hr.device]; rfl
  lanes p := by rw [hr.queue]; simp
  order := by
    refine ⟨[], [], rfl, ?_, by simp⟩
    rcases hr.dispatcher with h | h <;> rw [h] <;> rfl

/-- Steps in which nothing is written. -/
theorem Accounted.output_append {r : Relay} {es es' : Trace} (h : r.Accounted es)
    (hforwarded : es'.forwarded = []) :
    r.device.output = (es ++ es').forwarded.flatMap (·.frame.encode) := by
  rw [Trace.forwarded_append, hforwarded, List.append_nil]
  exact h.output

/-- Steps that touch neither what is accounted for nor the queue. -/
theorem Accounted.congr {r r' : Relay} {es es' : Trace} (h : r.Accounted es)
    (houtput : r'.device.output = r.device.output) (hlanes : r'.queue.lanes = r.queue.lanes)
    (hhand : r'.dispatcher.inHand = r.dispatcher.inHand) (hforwarded : es'.forwarded = [])
    (htaken : es'.taken = []) (hqueued : es'.queued = []) : r'.Accounted (es ++ es') where
  output := houtput.trans (h.output_append hforwarded)
  lanes p := by
    have := h.lanes p
    simp only [Trace.taken, Trace.queued, List.filterMap_append] at htaken hqueued this ⊢
    rw [htaken, hqueued, hlanes, List.append_nil, List.append_nil]
    exact this
  order := by
    obtain ⟨written, hand, hw, hh, hs⟩ := h.order
    simp only [Trace.taken, Trace.forwarded, List.filterMap_append] at htaken hforwarded hw hs ⊢
    exact ⟨written, hand, by rw [hforwarded, List.append_nil, hw], by rw [hhand, hh],
      by rw [htaken, List.append_nil]; exact hs⟩

/-- A request is queued at the end of its lane. -/
theorem Accounted.push {r : Relay} {es : Trace} (h : r.Accounted es) (clients : List Client)
    (p : Priority) (q : Request) {es' : Trace} (hqueued : es'.queued = [(p, q)])
    (htaken : es'.taken = []) (hforwarded : es'.forwarded = []) :
    { r with clients, queue := r.queue.push p q }.Accounted (es ++ es') where
  output := h.output_append hforwarded
  lanes p' := by
    have hlane := h.lanes p'
    simp only [Trace.taken, Trace.queued, List.filterMap_append] at htaken hqueued hlane ⊢
    rw [htaken, hqueued, List.append_nil, ofClass_append, ofClass_singleton, WorkQueue.lanes_push,
      Lanes.lane_push]
    by_cases hp : p = p'
    · rw [if_pos hp, if_pos hp, ← List.append_assoc]
      exact hlane.append (List.Sublist.refl _)
    · rw [if_neg hp, if_neg hp, List.append_nil]
      exact hlane
  order := by
    obtain ⟨written, hand, hw, hh, hs⟩ := h.order
    simp only [Trace.taken, Trace.forwarded, List.filterMap_append] at htaken hforwarded hw hs ⊢
    exact ⟨written, hand, by rw [hforwarded, List.append_nil, hw], hh,
      by rw [htaken, List.append_nil]; exact hs⟩

/-- The dispatcher lets go of the request in hand. -/
theorem Accounted.letGo {r r' : Relay} {es es' : Trace} (h : r.Accounted es)
    (houtput : r'.device.output = r.device.output) (hlanes : r'.queue.lanes = r.queue.lanes)
    (hhand : r'.dispatcher.inHand = []) (hforwarded : es'.forwarded = [])
    (htaken : es'.taken = []) (hqueued : es'.queued = []) : r'.Accounted (es ++ es') := by
  have hkept : { r with dispatcher := r'.dispatcher }.Accounted es := by
    refine ⟨h.output, h.lanes, ?_⟩
    obtain ⟨written, hand, hw, -, hs⟩ := h.order
    refine ⟨written, [], hw, by simp [hhand], ?_⟩
    rw [List.append_nil]
    exact (List.sublist_append_left written hand).trans hs
  exact hkept.congr houtput hlanes rfl hforwarded htaken hqueued

/-- The dispatcher takes the first request of a lane. -/
theorem Accounted.take {r : Relay} {es : Trace} (h : r.Accounted es) {p : Priority} {q : Request}
    {queue : WorkQueue Request} (idle : r.dispatcher = .idle)
    (pop : r.queue.lanes.pop? = some ((p, q), queue.lanes)) {es' : Trace}
    (htaken : es'.taken = [(p, q)]) (hforwarded : es'.forwarded = []) (hqueued : es'.queued = []) :
    { r with queue, dispatcher := .holding p q }.Accounted (es ++ es') where
  output := h.output_append hforwarded
  lanes p' := by
    have hlane := h.lanes p'
    rw [Lanes.lane_of_pop? pop p'] at hlane
    simp only [Trace.taken, Trace.queued, List.filterMap_append] at htaken hqueued hlane ⊢
    rw [htaken, hqueued, List.append_nil, ofClass_append, ofClass_singleton]
    by_cases hp : p = p'
    · rw [if_pos hp] at hlane ⊢
      simpa using hlane
    · rw [if_neg hp] at hlane ⊢
      simpa using hlane
  order := by
    obtain ⟨written, hand, hw, hh, hs⟩ := h.order
    obtain rfl : hand = [] := by simpa [idle, Dispatcher.inHand] using hh
    simp only [Trace.taken, Trace.forwarded, List.filterMap_append] at htaken hforwarded hw hs ⊢
    refine ⟨written, [(p, q)], by rw [hforwarded, List.append_nil, hw], rfl, ?_⟩
    rw [htaken]
    rw [List.append_nil] at hs
    exact hs.append (List.Sublist.refl _)

/-- The request in hand is written. -/
theorem Accounted.forward {r : Relay} {es : Trace} (h : r.Accounted es) {q : Request}
    (writing : r.dispatcher = .writing q) {es' : Trace} (hforwarded : es'.forwarded = [q])
    (htaken : es'.taken = []) (hqueued : es'.queued = []) :
    { r with
      dispatcher := .idle
      device := { r.device with output := r.device.output ++ q.frame.encode } }.Accounted
      (es ++ es') where
  output := by
    have := h.output
    simp only [Trace.forwarded, List.filterMap_append] at hforwarded this ⊢
    rw [this, hforwarded]
    simp
  lanes p := by
    have hlane := h.lanes p
    simp only [Trace.taken, Trace.queued, List.filterMap_append] at htaken hqueued hlane ⊢
    rw [htaken, hqueued, List.append_nil, List.append_nil]
    exact hlane
  order := by
    obtain ⟨written, hand, hw, hh, hs⟩ := h.order
    simp only [Trace.taken, Trace.forwarded, List.filterMap_append] at htaken hforwarded hw hs ⊢
    refine ⟨written ++ hand, [], ?_, rfl, ?_⟩
    · rw [List.map_append, hw, hh, writing, hforwarded]
      rfl
    · rw [htaken, List.append_nil, List.append_nil]
      exact hs

/-- Every step keeps the accounts. -/
theorem Accounted.step {r r' : Relay} {m : Move} {es es' : Trace} (h : r.Accounted es)
    (hs : Step r m r' es') : r'.Accounted (es ++ es') := by
  cases hs with
  | aside _ _ _ _ _ _ quiet =>
    exact h.congr rfl rfl rfl (Trace.forwarded_aside quiet) (Trace.taken_aside quiet)
      (Trace.queued_aside quiet)
  | pushed => exact h.push r.clients _ _ rfl rfl rfl
  | received _ _ clients => exact h.push clients _ _ rfl rfl rfl
  | drained =>
    refine ⟨by simpa using h.output, fun p => ?_, by simpa using h.order⟩
    have := (List.sublist_append_left _ _).trans (h.lanes p)
    simpa using this
  | registered => exact h.congr rfl rfl rfl rfl rfl rfl
  | deviceSent => exact h.congr (by simp) (by simp) (by simp) rfl rfl rfl
  | deviceEnded => exact h.congr (by simp) (by simp) (by simp) rfl rfl rfl
  | deviceBroke => exact h.congr rfl rfl rfl rfl rfl rfl
  | started unstarted | dispatcherUnused unstarted =>
    exact h.congr rfl rfl (by rw [unstarted]; rfl) rfl rfl rfl
  | routed _ _ _ verdict =>
    obtain ⟨-, hqueued, -, htaken, -, hforwarded⟩ := verdict.trace _
    exact h.congr rfl rfl rfl hforwarded htaken hqueued
  | lost _ told =>
    obtain ⟨-, -, hqueued, -, htaken, -, hforwarded⟩ := r.trace_loseDevice told
    exact h.congr rfl rfl rfl hforwarded htaken hqueued
  | slept _ _ same => exact h.congr rfl same rfl rfl rfl rfl
  | taken idle pop => exact h.take idle pop rfl rfl rfl
  | recorded holding => exact h.congr rfl rfl (by rw [holding]; rfl) rfl rfl rfl
  | displaced holding => exact h.congr rfl rfl (by rw [holding]; rfl) rfl rfl rfl
  | refused => exact h.letGo rfl rfl rfl rfl rfl rfl
  | forwarded writing => exact h.forward writing rfl rfl rfl
  | unwritten => exact h.letGo rfl rfl rfl rfl rfl rfl
  | routerStopped => exact h.congr rfl rfl rfl rfl rfl rfl
  | dispatcherStopped _ same => exact h.letGo rfl same rfl rfl rfl rfl

theorem accounted {r : Relay} (hr : r.Fresh) (ms : List Move) :
    (r.final ms).Accounted (r.trace ms) :=
  run_induction (accounted_start hr) (fun _ _ _ _ _ h hs => h.step hs) ms

/-! ## Nothing gets lost before it is taken -/

/-- Unless the queue is emptied, every queued request has been taken or still waits. -/
theorem queued_eq_taken_append_lane {r : Relay} (hr : r.Fresh) {all : List Move}
    (hdrain : .input .drain ∉ all) (p : Priority) :
    ofClass p (r.trace all).queued =
      ofClass p (r.trace all).taken ++ (r.final all).queue.lanes.lane p := by
  refine prefix_induction (r := r) (P := fun _ s es =>
    ofClass p es.queued = ofClass p es.taken ++ s.queue.lanes.lane p) ?_ ?_ all
    (List.prefix_refl all)
  · rw [hr.queue]
    simp
  · intro ms m r' (es : Trace) hall ih hs
    generalize r.final ms = r₀ at ih hs
    generalize r.trace ms = es₀ at ih ⊢
    have hkeep : es.queued = [] → es.taken = [] → r'.queue.lanes = r₀.queue.lanes →
        ofClass p (es₀ ++ es).queued = ofClass p (es₀ ++ es).taken ++ r'.queue.lanes.lane p := by
      intro hqueued htaken hlanes
      simp only [Trace.queued, Trace.taken, List.filterMap_append] at hqueued htaken ih ⊢
      rw [hqueued, htaken, hlanes, List.append_nil, List.append_nil, ih]
    have hpush : ∀ p' q, es.queued = [(p', q)] → es.taken = [] →
        r'.queue = r₀.queue.push p' q →
        ofClass p (es₀ ++ es).queued = ofClass p (es₀ ++ es).taken ++ r'.queue.lanes.lane p := by
      intro p' q hqueued htaken hqueue
      simp only [Trace.queued, Trace.taken, List.filterMap_append] at hqueued htaken ih ⊢
      rw [hqueued, htaken, hqueue, List.append_nil, ofClass_append, ofClass_singleton, ih,
        WorkQueue.lanes_push, Lanes.lane_push]
      split <;> simp
    cases hs with
    | aside _ _ _ _ _ _ quiet =>
      exact hkeep (Trace.queued_aside quiet) (Trace.taken_aside quiet) rfl
    | pushed => exact hpush _ _ rfl rfl rfl
    | received => exact hpush _ _ rfl rfl rfl
    | drained => exact absurd (hall.subset (by simp)) hdrain
    | deviceSent | deviceEnded => exact hkeep rfl rfl (by simp)
    | routed _ _ _ verdict =>
      obtain ⟨-, hqueued, -, htaken, -⟩ := verdict.trace _
      exact hkeep hqueued htaken rfl
    | lost _ told =>
      obtain ⟨-, -, hqueued, -, htaken, -⟩ := r₀.trace_loseDevice told
      exact hkeep hqueued htaken rfl
    | slept _ _ same | dispatcherStopped _ same => exact hkeep rfl rfl same
    | @taken p' q queue _ pop =>
      have hlane := Lanes.lane_of_pop? pop p
      show ofClass p (es₀ ++ [RelayEvent.taken p' q]).queued = _
      simp only [Trace.queued, Trace.taken, List.filterMap_append] at ih ⊢
      rw [ofClass_append, ofClass_append, ih, hlane]
      show _ = ofClass p _ ++ ofClass p [(p', q)] ++ queue.lanes.lane p
      rw [ofClass_singleton]
      show _ ++ [] = _
      split <;> simp
    | _ => exact hkeep rfl rfl rfl

/-- A normal request is taken only when no high one waits. -/
theorem high_of_taken_normal {r r' : Relay} {m : Move} {es : Trace} (hs : Step r m r' es)
    {q : Request} (hq : (.normal, q) ∈ es.taken) : r.queue.lanes.high = [] := by
  have hnone : es.taken ≠ [] := List.ne_nil_of_mem hq
  cases hs with
  | taken idle pop =>
    cases List.mem_singleton.mp hq
    exact Lanes.high_of_pop?_normal pop
  | aside _ _ _ _ _ _ quiet => exact absurd (Trace.taken_aside quiet) hnone
  | routed _ _ _ verdict => exact absurd (verdict.trace _).2.2.2.1 hnone
  | lost _ told => exact absurd (r.trace_loseDevice told).2.2.2.2.1 hnone
  | _ => exact absurd rfl hnone

/-! ## The requests of one session -/

/-- What a client has queued through its session: all of one class, and just what the session has
read. -/
theorem queued_of_session {r : Relay} {all : List Move} {who : Requester}
    (hpush : ∀ p f, .input (.push who.client p f) ∉ all) :
    (∀ x ∈ (r.trace all).queued, x.2.requester = who → x.1 = .ofPeer who.peer) ∧
      ((r.trace all).queued.map (·.2)).filter (·.requester = who) =
        (r.trace all).received.filter (·.requester = who) := by
  refine prefix_induction (r := r) (P := fun _ _ es =>
    (∀ x ∈ es.queued, x.2.requester = who → x.1 = .ofPeer who.peer) ∧
      (es.queued.map (·.2)).filter (·.requester = who) =
        es.received.filter (·.requester = who)) ⟨by simp, rfl⟩ ?_ all (List.prefix_refl all)
  intro ms m r' (es : Trace) hall ih hs
  generalize r.final ms = r₀ at hs
  generalize r.trace ms = es₀ at ih ⊢
  have hnew : (∀ x ∈ es.queued, x.2.requester = who → x.1 = .ofPeer who.peer) ∧
      (es.queued.map (·.2)).filter (·.requester = who) =
        es.received.filter (·.requester = who) := by
    have hquiet : es.queued = [] → es.received = [] → (∀ x ∈ es.queued, x.2.requester = who →
        x.1 = .ofPeer who.peer) ∧ (es.queued.map (·.2)).filter (·.requester = who) =
          es.received.filter (·.requester = who) := by
      intro hqueued hreceived
      rw [hqueued, hreceived]
      exact ⟨by simp, rfl⟩
    cases hs with
    | aside _ _ _ _ _ _ quiet =>
      exact hquiet (Trace.queued_aside quiet) (Trace.received_aside quiet)
    | @pushed c p f peer =>
      have hother : (⟨c, peer⟩ : Requester) ≠ who := by
        rintro rfl
        exact hpush p f (hall.subset (by simp))
      exact ⟨by simp [RelayEvent.queued?, hother],
        by simp [RelayEvent.queued?, RelayEvent.received?, hother]⟩
    | received peer f =>
      refine ⟨?_, rfl⟩
      intro x hx hwho
      rw [show x = _ from List.mem_singleton.mp hx] at hwho ⊢
      rw [← hwho]
    | routed _ _ _ verdict =>
      obtain ⟨-, hqueued, hreceived, -⟩ := verdict.trace _
      exact hquiet hqueued hreceived
    | lost _ told =>
      obtain ⟨-, -, hqueued, hreceived, -⟩ := r₀.trace_loseDevice told
      exact hquiet hqueued hreceived
    | _ => exact hquiet rfl rfl
  simp only [Trace.queued, Trace.received, List.filterMap_append] at ih hnew ⊢
  refine ⟨fun x hx => ?_, ?_⟩
  · rcases List.mem_append.mp hx with hx | hx
    · exact ih.1 x hx
    · exact hnew.1 x hx
  · rw [List.map_append, List.filter_append, List.filter_append, ih.2, hnew.2]

/-- The requests of a session reach the device in the order in which the session has read them. -/
theorem forwarded_of_session {r : Relay} (hr : r.Fresh) {ms : List Move} {who : Requester}
    (hpush : ∀ p f, .input (.push who.client p f) ∉ ms) :
    ((r.trace ms).forwarded.filter (·.requester = who)).Sublist
      ((r.trace ms).received.filter (·.requester = who)) := by
  obtain ⟨hclass, hreceived⟩ := queued_of_session (r := r) hpush
  obtain ⟨written, hand, hwritten, -, hsub⟩ := (accounted hr ms).order
  have hlanes := (accounted hr ms).lanes
  have hqueued : (ofClass (.ofPeer who.peer) written).Sublist
      (ofClass (.ofPeer who.peer) (r.trace ms).queued) :=
    (((List.sublist_append_left written hand).trans hsub).filterMap _).trans
      ((List.sublist_append_left _ _).trans (hlanes _))
  have hwrote : ∀ x ∈ written, x.2.requester = who → x.1 = .ofPeer who.peer := by
    intro x hx hwho
    obtain ⟨p, q⟩ := x
    have hmem : q ∈ ofClass p (r.trace ms).queued := by
      refine (((List.sublist_append_left _ _).trans (hlanes p)).subset ?_)
      exact mem_ofClass.mpr (((List.sublist_append_left written hand).trans hsub).subset hx)
    exact hclass (p, q) (mem_ofClass.mp hmem) hwho
  have := hqueued.filter (fun q => decide (q.requester = who))
  rw [filter_ofClass (by simpa using hwrote), filter_ofClass (by simpa using hclass), hwritten,
    hreceived] at this
  exact this

/-! ## The device's side of a run -/

/-- What the device gets in a run: the frames of the requests written, end to end, so that it can
tell them apart with nothing left over. These are requests taken off the queue, in the order in
which they were taken; within a class this is the order in which they were queued, and none is
written more often than it was queued. Without a drain, what was queued and not taken still waits.
The requests of a session are written in the order in which it read them, and a normal request is
taken only when no high one waits. -/
theorem device_gets_requests_in_order {r : Relay} (hr : r.Fresh) (ms : List Move) :
    (r.final ms).device.output = (r.trace ms).forwarded.flatMap (·.frame.encode) ∧
    takeFrames (r.final ms).device.output = ((r.trace ms).forwarded.map (·.frame), none, []) ∧
    (∃ written : List (Priority × Request),
      written.map (·.2) = (r.trace ms).forwarded ∧ written.Sublist (r.trace ms).taken ∧
        ∀ p, (ofClass p written).Sublist (ofClass p (r.trace ms).queued)) ∧
    (∀ q, (r.trace ms).forwarded.count q ≤ ((r.trace ms).queued.map (·.2)).count q) ∧
    (.input .drain ∉ ms → ∀ p, ofClass p (r.trace ms).queued =
      ofClass p (r.trace ms).taken ++ (r.final ms).queue.lanes.lane p) ∧
    (∀ who, (∀ p f, .input (.push who.client p f) ∉ ms) →
      ((r.trace ms).forwarded.filter (·.requester = who)).Sublist
        ((r.trace ms).received.filter (·.requester = who))) ∧
    ∀ ps m q, ps ++ [m] <+: ms → (.normal, q) ∈ Trace.taken ((r.final ps).move m).2 →
      (r.final ps).queue.lanes.high = [] := by
  obtain ⟨written, hand, hwritten, -, hsub⟩ := (accounted hr ms).order
  have htaken : written.Sublist (r.trace ms).taken :=
    (List.sublist_append_left written hand).trans hsub
  have hqueued (p : Priority) : (ofClass p written).Sublist (ofClass p (r.trace ms).queued) :=
    (htaken.filterMap _).trans ((List.sublist_append_left _ _).trans ((accounted hr ms).lanes p))
  have houtput := (accounted hr ms).output
  refine ⟨houtput, ?_, ⟨written, hwritten, htaken, hqueued⟩, ?_, ?_, ?_, ?_⟩
  · have := takeFrames_flatMap_encode ((r.trace ms).forwarded.map (·.frame)) []
    rw [List.append_nil, takeFrames_nil, List.flatMap_map, List.append_nil] at this
    rw [houtput, this]
  · intro q
    rw [← hwritten, count_map_snd, count_map_snd]
    exact Nat.add_le_add ((hqueued .high).count_le q) ((hqueued .normal).count_le q)
  · intro hdrain p
    exact queued_eq_taken_append_lane hr hdrain p
  · intro who hpush
    exact forwarded_of_session hr hpush
  · intro ps m q _ hmem
    exact high_of_taken_normal (step_move (r.final ps) m) hmem

/-- A remote session queues two requests and a local one a third, before the dispatcher starts. -/
def localLast : List Move :=
  [ .input (.serve ⟨.v4 10 0 0 9, 40000⟩), .input (.serve ⟨.v4 127 0 0 1, 40001⟩),
    .turn (.begin 0), .turn (.begin 1),
    .input (.clientSends 0 [0, 1, 0, 0, 0, 2, 1, 3, 0, 2, 0, 0, 0, 2, 1, 3]),
    .turn (.intake 0), .turn (.intake 0),
    .input (.clientSends 1 [0, 3, 0, 0, 0, 2, 1, 3]), .turn (.intake 1),
    .input .startDispatcher,
    .turn .take, .turn .record, .turn .write, .turn .take, .turn .record, .turn .write ]

/-- The local request is written first, and the later remote one is still waiting. -/
theorem device_gets_local_request_first :
    (ofSettings {}).Fresh ∧
      ((ofSettings {}).final localLast).device.output =
        [0, 3, 0, 0, 0, 2, 1, 3, 0, 1, 0, 0, 0, 2, 1, 3] := by
  refine ⟨fresh_ofSettings {}, ?_⟩
  rw [(device_gets_requests_in_order (fresh_ofSettings {}) localLast).1]
  decide +kernel

end Relay

end ModbusRelay
