import Mathlib.Data.List.TakeWhile
import ModbusRelay.Proofs.Frame.Chunks
import ModbusRelay.Proofs.Relay.Answer
import ModbusRelay.Proofs.Relay.Departures
import ModbusRelay.Proofs.Relay.Mailbox
import ModbusRelay.Proofs.Relay.Requests

/-!
The loss of the device.

Two workers can find out that the device is lost, each at its own end of the connection: the
dispatcher by a write that fails, after which it goes on, and the router by a read that fails, after
which it has ended. Whichever it is, the connection counts as down from then on, and that is so just
if an error of the device has been counted (`deviceUp_step`).

A router that has ended does nothing more: no later move brings it back, hands a response over or
counts one (`silent_run`). It ends itself just once, when all frames that came before the failure
have been handled; `Hears` ties what it has handled and what is left to the bytes sent until the end
of the stream. So the loss is final (`loss_is_final`), although the dispatcher goes on to record
requests in the table that was emptied.
-/

namespace ModbusRelay

/-- A read from the device or a write to it fails. -/
def RelayEvent.isDeviceFailure : RelayEvent → Bool
  | .deviceClosed | .deviceReadFailed _ | .forwardFailed .. => true
  | _ => false

namespace Trace

theorem deviceErrors_append (es es' : Trace) :
    (es ++ es').deviceErrors = es.deviceErrors ++ es'.deviceErrors :=
  List.filterMap_append

/-- Where no response is handled, nothing happens that happens to responses only. -/
theorem filterMap_of_handled {α : Type} {kind : RelayEvent → Option α}
    (hkind : ∀ e : RelayEvent, e.handled? = none → kind e = none) {es : Trace}
    (h : es.handled = []) : es.filterMap kind = [] :=
  List.filterMap_eq_nil_iff.mpr fun e he => hkind e (List.filterMap_eq_nil_iff.mp h e he)

theorem routed_of_handled {es : Trace} (h : es.handled = []) : es.routed = [] :=
  filterMap_of_handled (fun e he => by cases e <;> first | rfl | cases he) h

theorem missed_of_handled {es : Trace} (h : es.handled = []) : es.missed = [] :=
  filterMap_of_handled (fun e he => by cases e <;> first | rfl | cases he) h

end Trace

namespace Relay

variable {r : Relay}

/-! ## The connection is down after the first failure -/

/-- A move takes the connection down just if something fails in it, and then an error of the device
is counted. -/
theorem deviceUp_step {r' : Relay} {m : Move} {es : Trace} (hs : Step r m r' es) :
    (r'.deviceUp = r.deviceUp ∧ (∀ e ∈ es, e.isDeviceFailure = false) ∧ es.deviceErrors = []) ∨
      r'.deviceUp = false ∧ (∃ e ∈ es, e.isDeviceFailure = true) ∧ es.deviceErrors ≠ [] := by
  cases hs with
  | aside _ _ _ _ _ _ quiet =>
    refine .inl ⟨rfl, fun e he => ?_, Trace.filterMap_of_kind quiet fun e he => ?_⟩
    · have := quiet e he
      cases e <;> first | rfl | cases this
    · cases e <;> first | rfl | cases he
  | deviceSent | deviceEnded =>
    refine .inl ⟨?_, by simp, rfl⟩
    unfold withDeviceInput
    split <;> rfl
  | @routed f _ _ _ _ _ verdict =>
    have passing := verdict.isPassing (r.pending.take f.transactionId).2.size
    refine .inl ⟨rfl, fun e he => ?_, Trace.filterMap_of_kind passing fun e he => ?_⟩
    · have := passing e he
      cases e <;> first | rfl | cases this
    · cases e <;> first | rfl | cases he
  | @lost cause _ told =>
    refine .inr ⟨rfl, ⟨cause, List.mem_cons_self, ?_⟩, ?_⟩
    · rcases told with rfl | ⟨e, rfl⟩ <;> rfl
    · unfold loseDevice
      rcases told with rfl | ⟨e, rfl⟩ <;> simp [RelayEvent.deviceError?]
  | unwritten =>
    exact .inr ⟨rfl, ⟨_, List.mem_cons_self, rfl⟩, by simp [RelayEvent.deviceError?]⟩
  | _ => exact .inl ⟨rfl, by simp [RelayEvent.isDeviceFailure], rfl⟩

/-- The connection is down just if something has failed, and just if an error has been counted. -/
theorem deviceUp_final (hr : r.Fresh) (ms : List Move) :
    ((r.final ms).deviceUp = false ↔ ∃ e ∈ r.trace ms, e.isDeviceFailure = true) ∧
      ((r.final ms).deviceUp = false ↔ (r.trace ms).deviceErrors ≠ []) := by
  refine run_induction (r := r)
    (P := fun s es => (s.deviceUp = false ↔ ∃ e ∈ es, e.isDeviceFailure = true) ∧
      (s.deviceUp = false ↔ Trace.deviceErrors es ≠ [])) (by simp [hr.deviceUp]) ?_ ms
  rintro r₀ es₀ m r' es ⟨hfailure, herror⟩ hs
  rw [Trace.deviceErrors_append]
  rcases deviceUp_step hs with ⟨hsame, hnone, hnil⟩ | ⟨hdown, ⟨e, he, hfails⟩, hsome⟩
  · rw [hsame, hnil, List.append_nil]
    refine ⟨hfailure.trans ⟨?_, ?_⟩, herror⟩
    · rintro ⟨e, he, hfails⟩
      exact ⟨e, List.mem_append_left _ he, hfails⟩
    · rintro ⟨e, he, hfails⟩
      rcases List.mem_append.mp he with he | he
      · exact ⟨e, he, hfails⟩
      · rw [hnone e he] at hfails
        cases hfails
  · exact ⟨iff_of_true hdown ⟨e, List.mem_append_right _ he, hfails⟩,
      iff_of_true hdown (by simp [hsome])⟩

/-- What is down stays down. -/
theorem deviceUp_of_prefix (hr : r.Fresh) {ps ms : List Move} (h : ps <+: ms)
    (hdown : (r.final ps).deviceUp = false) : (r.final ms).deviceUp = false := by
  obtain ⟨later, rfl⟩ := h
  obtain ⟨e, he, hfails⟩ := (deviceUp_final hr ps).1.mp hdown
  refine (deviceUp_final hr _).1.mpr ⟨e, ?_, hfails⟩
  rw [trace_append]
  exact List.mem_append_left _ he

/-! ## A router that has ended -/

/-- Nothing brings the router back, and without it no response is handled. -/
theorem silent_step {r' : Relay} {m : Move} {es : Trace} (h : r.routing = false)
    (hs : Step r m r' es) : r'.routing = false ∧ es.handled = [] := by
  cases hs with
  | aside _ _ _ _ _ _ quiet => exact ⟨h, Trace.handled_aside quiet⟩
  | deviceSent | deviceEnded => exact ⟨by simpa using h, rfl⟩
  | routed _ routing | lost routing =>
    rw [h] at routing
    cases routing
  | routerStopped => exact ⟨rfl, rfl⟩
  | _ => exact ⟨h, rfl⟩

/-- A router that reads has read before. -/
theorem routing_of_move {m : Move} (h : (r.move m).1.routing = true) : r.routing = true := by
  by_contra hnot
  rw [(silent_step (by simpa using hnot) (step_move r m)).1] at h
  cases h

/-- A move in which no response is handled puts nothing into a mailbox. -/
theorem inbox_of_handled {m : Move} (h : Trace.handled (r.move m).2 = []) (c : Nat) :
    (r.move m).1.inbox c <:+ r.inbox c := by
  obtain ⟨left, hleft, heq⟩ := r.inbox_move m c
  rw [heq, Trace.inboxed, Trace.routed_of_handled h]
  simpa using hleft

theorem silent_run (h : r.routing = false) (ns : List Move) :
    (r.trace ns).handled = [] ∧ ∀ c, (r.final ns).inbox c <:+ r.inbox c := by
  induction ns generalizing r with
  | nil => exact ⟨rfl, fun c => List.suffix_refl _⟩
  | cons m ns ih =>
    obtain ⟨hrouting, hhandled⟩ := silent_step h (step_move r m)
    obtain ⟨hhandled', hinbox⟩ := ih hrouting
    rw [final_cons, trace_cons, Trace.handled_append, hhandled, hhandled']
    exact ⟨rfl, fun c => (hinbox c).trans (inbox_of_handled hhandled c)⟩

/-! ## What the router hears -/

end Relay

/-- The end of what comes from the device, if the move is one. -/
def Move.deviceEnd? : Move → Option ReadEnd
  | .input (.deviceEnds how) => some how
  | _ => none

/-- How what comes from the device has come to its end, if it has. -/
def deviceEnding (ms : List Move) : Option ReadEnd := ms.findSome? Move.deviceEnd?

/-- The bytes that come from the device before the end. -/
def heard (ms : List Move) : List UInt8 :=
  deviceBytes (ms.takeWhile (·.deviceEnd? = none))

theorem deviceEnding_snoc (ms : List Move) (m : Move) :
    deviceEnding (ms ++ [m]) = (deviceEnding ms).or m.deviceEnd? := by
  unfold deviceEnding
  rw [List.findSome?_append, List.findSome?_singleton]

theorem heard_of_open {ms : List Move} (h : deviceEnding ms = none) : heard ms = deviceBytes ms := by
  rw [heard, List.takeWhile_eq_self_iff.mpr]
  exact fun m hm => decide_eq_true (List.findSome?_eq_none_iff.mp h m hm)

theorem heard_snoc_of_ended {ms : List Move} (h : deviceEnding ms ≠ none) (m : Move) :
    heard (ms ++ [m]) = heard ms := by
  have hshort : (ms.takeWhile (·.deviceEnd? = none)).length ≠ ms.length := by
    intro hlength
    have heq := (List.takeWhile_prefix _).eq_of_length hlength
    refine h (List.findSome?_eq_none_iff.mpr fun m hm => ?_)
    exact of_decide_eq_true (List.takeWhile_eq_self_iff.mp heq m hm)
  rw [heard, List.takeWhile_append, if_neg hshort, heard]

theorem heard_snoc_of_open {ms : List Move} (h : deviceEnding ms = none) (m : Move) :
    heard (ms ++ [m]) = heard ms ++ m.deviceBytes := by
  rw [heard_of_open h]
  cases hm : m.deviceEnd? with
  | none =>
    rw [heard_of_open (by rw [deviceEnding_snoc, h, hm]; rfl), deviceBytes_append,
      deviceBytes_singleton]
  | some how =>
    have hnone : ∀ a ∈ ms, decide (a.deviceEnd? = none) = true := fun a ha =>
      decide_eq_true (List.findSome?_eq_none_iff.mp h a ha)
    have hsilent : m.deviceBytes = [] := by
      cases m with
      | turn t => cases hm
      | input i => cases i <;> first | rfl | cases hm
    rw [heard, List.takeWhile_append_of_pos hnone]
    simp [hm, hsilent]

/-- A move by which the device sends nothing. -/
theorem heard_snoc_of_silent {ms : List Move} {m : Move} (h : m.deviceBytes = []) :
    heard (ms ++ [m]) = heard ms := by
  by_cases hends : deviceEnding ms = none
  · rw [heard_snoc_of_open hends, h, List.append_nil]
  · exact heard_snoc_of_ended hends m

namespace Relay

variable {r : Relay}

/-- What has been heard are the responses handled and what the router has not read. -/
structure Hears (r : Relay) (es : Trace) (ms : List Move) : Prop where
  bytes : es.handled.flatMap (·.encode) ++ r.device.input.buffer = heard ms
  ending : r.device.input.ending = deviceEnding ms

theorem hears_start (hr : r.Fresh) : r.Hears [] [] where
  bytes := by
    rw [hr.device]
    rfl
  ending := by
    rw [hr.device]
    rfl

/-- Steps in which nothing comes from the device and the router reads nothing. -/
theorem Hears.congr {r' : Relay} {es es' : Trace} {ms : List Move} {m : Move}
    (h : r.Hears es ms) (hinput : r'.device.input = r.device.input) (hhandled : es'.handled = [])
    (hnone : m.deviceBytes = []) (hm : m.deviceEnd? = none) :
    r'.Hears (es ++ es') (ms ++ [m]) where
  bytes := by
    rw [Trace.handled_append, hhandled, List.append_nil, hinput, heard_snoc_of_silent hnone]
    exact h.bytes
  ending := by
    rw [hinput, h.ending, deviceEnding_snoc, hm, Option.or_none]

theorem withDeviceInput_input (h : r.routing = true) (change : FrameReader → FrameReader) :
    (r.withDeviceInput change).device.input = change r.device.input := by
  rw [withDeviceInput, if_pos h]

/-- Bytes come from the device; they are not heard after its end. -/
theorem Hears.sent {es : Trace} {ms : List Move} (h : r.Hears es ms) (hrouting : r.routing = true)
    (bytes : List UInt8) :
    (r.withDeviceInput (·.feed bytes)).Hears (es ++ []) (ms ++ [.input (.deviceSends bytes)]) := by
  have hsame : deviceEnding (ms ++ [.input (.deviceSends bytes)]) = deviceEnding ms := by
    rw [deviceEnding_snoc]
    exact Option.or_none
  have hended : r.device.input.ended = (deviceEnding ms).isSome := by
    rw [FrameReader.ended, h.ending]
  rw [List.append_nil]
  cases hopen : deviceEnding ms with
  | some how =>
    have hinput : (r.withDeviceInput (·.feed bytes)).device.input = r.device.input := by
      rw [withDeviceInput_input hrouting, FrameReader.feed, if_pos (by rw [hended, hopen]; rfl)]
    refine ⟨?_, ?_⟩ <;> rw [hinput]
    · exact h.bytes.trans (heard_snoc_of_ended (by simp [hopen]) _).symm
    · exact h.ending.trans hsame.symm
  | none =>
    have hinput : (r.withDeviceInput (·.feed bytes)).device.input =
        { r.device.input with buffer := r.device.input.buffer ++ bytes } := by
      rw [withDeviceInput_input hrouting, FrameReader.feed, if_neg (by rw [hended, hopen]; simp)]
    refine ⟨?_, ?_⟩ <;> rw [hinput]
    · rw [heard_snoc_of_open hopen, ← h.bytes, List.append_assoc]
      rfl
    · exact h.ending.trans hsame.symm

/-- What comes from the device ends. -/
theorem Hears.finished {es : Trace} {ms : List Move} (h : r.Hears es ms)
    (hrouting : r.routing = true) (how : ReadEnd) :
    (r.withDeviceInput (·.finish how)).Hears (es ++ []) (ms ++ [.input (.deviceEnds how)]) := by
  rw [List.append_nil]
  refine ⟨?_, ?_⟩ <;> rw [withDeviceInput_input hrouting, FrameReader.finish]
  · exact h.bytes.trans (heard_snoc_of_silent rfl).symm
  · rw [deviceEnding_snoc, ← h.ending]
    rfl

/-- The router reads the next response. -/
theorem Hears.routed {r' : Relay} {es es' : Trace} {ms : List Move} (h : r.Hears es ms) {f : Frame}
    (hnext : r.device.input.next = (.item (.frame f), r'.device.input))
    (hhandled : es'.handled = [f]) : r'.Hears (es ++ es') (ms ++ [.turn .route]) := by
  obtain ⟨hbuffer, hending⟩ := FrameReader.next_eq_frame_iff.mp hnext
  refine ⟨?_, ?_⟩
  · rw [heard_snoc_of_silent rfl, ← h.bytes, hbuffer, Trace.handled_append, hhandled]
    simp
  · rw [hending, h.ending, deviceEnding_snoc]
    exact Option.or_none.symm

theorem Hears.move {es : Trace} {ms : List Move} (h : r.Hears es ms) (m : Move)
    (hrouting : (r.move m).1.routing = true) :
    (r.move m).1.Hears (es ++ (r.move m).2) (ms ++ [m]) := by
  have hreads := routing_of_move hrouting
  cases hm : m.deviceEnd? with
  | some how =>
    obtain rfl : m = .input (.deviceEnds how) := by
      unfold Move.deviceEnd? at hm
      split at hm
      · rw [Option.some.inj hm]
      · cases hm
    exact h.finished hreads how
  | none =>
    have hs := step_move r m
    generalize (r.move m).1 = r' at hs hrouting ⊢
    generalize (r.move m).2 = es' at hs ⊢
    cases hs with
    | aside _ _ _ _ _ silent quiet =>
      exact h.congr rfl (Trace.handled_aside quiet) (Move.deviceBytes_of_silent silent) hm
    | deviceSent => exact h.sent hreads _
    | deviceEnded => cases hm
    | routed _ _ next verdict => exact h.routed next (verdict.trace _).1
    | lost | routerStopped => cases hrouting
    | _ => exact h.congr rfl rfl rfl hm

/-- As long as it reads, the router has handled what it has heard, but for what it has not read. -/
theorem hears (hr : r.Fresh) (ms : List Move) (hrouting : (r.final ms).routing = true) :
    (r.final ms).Hears (r.trace ms) ms := by
  induction ms using List.reverseRecOn with
  | nil => exact hears_start hr
  | append_singleton ms m ih =>
    rw [final_append, final_cons, final_nil] at hrouting ⊢
    rw [trace_append, trace_cons, trace_nil, List.append_nil]
    exact (ih (routing_of_move hrouting)).move m hrouting

end Relay

/-! ## Where the router gives up -/

/-- Why a stream cannot be read any further, by what is left of it and by how it has ended, if it
has. -/
inductive Unreadable (left : List UInt8) (ending : Option ReadEnd) : RelayEvent → Prop where
  | closed (isOver : ending = some .closed) (nothing : left = []) :
      Unreadable left ending .deviceClosed
  | torn (isOver : ending = some .closed) (something : left ≠ []) (incomplete : Incomplete left) :
      Unreadable left ending (.deviceReadFailed (.io .bytesRemaining))
  | broken {cause : IoError} (isOver : ending = some (.broken cause))
      (incomplete : Incomplete left) : Unreadable left ending (.deviceReadFailed (.io cause))
  | malformed {n : UInt16} (bad : Malformed left n) :
      Unreadable left ending (.deviceReadFailed (.framing (.invalidLength n)))

namespace Unreadable

variable {left : List UInt8} {ending : Option ReadEnd} {cause : RelayEvent}

/-- There is no frame in what cannot be read. -/
theorem takeFrames (h : Unreadable left ending cause) :
    ∃ stopped, ModbusRelay.takeFrames left = ([], stopped, left) := by
  cases h with
  | closed _ nothing =>
    subst nothing
    exact ⟨none, takeFrames_nil⟩
  | torn _ _ incomplete | broken _ incomplete =>
    exact ⟨none, takeFrames_of_incomplete incomplete⟩
  | malformed bad => exact ⟨_, takeFrames_of_malformed bad⟩

theorem of_finished {x : FrameReader} (h : x.next.1 = .finished) :
    Unreadable x.buffer x.ending .deviceClosed := by
  have hreading := FrameReader.reading (Prod.ext h rfl : x.next = (.finished, x.next.2))
  generalize x.next.2 = x' at hreading
  cases hreading with
  | finished isOver nothing => exact .closed isOver nothing

theorem of_failed {x : FrameReader} {e : RelayError} (h : x.next.1 = .item (.failed e)) :
    Unreadable x.buffer x.ending (.deviceReadFailed e) := by
  have hreading := FrameReader.reading (Prod.ext h rfl : x.next = (.item (.failed e), x.next.2))
  generalize x.next.2 = x' at hreading
  cases hreading with
  | torn isOver something incomplete => exact .torn isOver something incomplete
  | broken isOver incomplete => exact .broken isOver incomplete
  | malformed bad => exact .malformed bad

end Unreadable

namespace Relay

variable {r : Relay}

/-- Only the router gives the device up, and only when it can read no further. It handles no response
with it. -/
theorem loss_of_move {m : Move} (h : .deviceLost ∈ (r.move m).2) :
    m = .turn .route ∧ r.routing = true ∧ Trace.handled (r.move m).2 = [] ∧
      ∃ cause, r.move m = (r.loseDevice.1, cause :: r.loseDevice.2) ∧
        Unreadable r.device.input.buffer r.device.input.ending cause := by
  obtain ⟨rfl, hrouting, hhandled⟩ : m = .turn .route ∧ r.routing = true ∧
      Trace.handled (r.move m).2 = [] := by
    have hs := step_move r m
    generalize (r.move m).1 = r' at hs
    generalize (r.move m).2 = es at hs h ⊢
    cases hs with
    | aside _ _ _ _ _ _ quiet => cases quiet _ h
    | routed _ _ _ verdict => cases verdict.isPassing _ _ h
    | lost routing told => exact ⟨rfl, routing, (r.trace_loseDevice told).1⟩
    | _ => simp at h
  refine ⟨rfl, hrouting, hhandled, ?_⟩
  rcases hnext : r.device.input.next with ⟨(f | e) | _ | _, input⟩
  · rw [Trace.handled_eq, (route_of_frame hrouting hnext).2.2] at hhandled
    cases hhandled
  · have hfailed : r.device.input.next.1 = .item (.failed e) := by rw [hnext]
    exact ⟨_, route_of_failed hrouting hfailed, .of_failed hfailed⟩
  · have hfinished : r.device.input.next.1 = .finished := by rw [hnext]
    exact ⟨_, route_of_finished hrouting hfinished, .of_finished hfinished⟩
  · rw [route_of_waiting (.inr (by rw [hnext]))] at h
    cases h

/-! ## A loss, and what comes after it -/

/-- What it means that the router gives the device up in a move of a run, for a process whose
metrics were `m` when the run began. -/
structure Lost (r : Relay) (m : Metrics) (before : List Move) (move : Move) (later : List Move) :
    Prop where
  router : move = .turn .route
  /-- Every complete frame that came before the failure has been handled. -/
  handled : (r.trace before).handled = (takeFrames (heard before)).1
  /-- What comes behind these frames cannot be read. -/
  cause : ∃ cause ∈ ((r.final before).move move).2,
    Unreadable (takeFrames (heard before)).2.2 (deviceEnding before) cause
  cleared : (r.final (before ++ [move])).pending.entries = []
  gauge : (m.observeAll (r.trace (before ++ [move]))).pending = 0
  /-- No response goes into a mailbox any more. -/
  silent : ∀ c, ((r.final before).trace (move :: later)).inboxed c = []
  inbox : ∀ c, (r.final (before ++ move :: later)).inbox c <:+ (r.final before).inbox c
  routed : (m.observeAll (r.trace (before ++ move :: later))).routed =
    (m.observeAll (r.trace before)).routed
  misses : (m.observeAll (r.trace (before ++ move :: later))).misses =
    (m.observeAll (r.trace before)).misses

/-- The gauge of requests in flight is set to zero with the loss. -/
theorem pending_observeAll_loseDevice (r : Relay) (cause : RelayEvent) (m : Metrics) :
    (m.observeAll (cause :: r.loseDevice.2)).pending = 0 := by
  unfold loseDevice
  dsimp only
  split <;> rfl

theorem lost_of_deviceLost (hr : r.Fresh) (m : Metrics) {before : List Move} {move : Move}
    (h : .deviceLost ∈ ((r.final before).move move).2) (later : List Move) :
    r.Lost m before move later := by
  obtain ⟨rfl, hrouting, hfirst, cause, hmove, hcause⟩ := loss_of_move h
  obtain ⟨hbytes, hending⟩ := hears hr before hrouting
  obtain ⟨stopped, hleft⟩ := hcause.takeFrames
  have hframes : takeFrames (heard before) =
      ((r.trace before).handled, stopped, (r.final before).device.input.buffer) := by
    rw [← hbytes, takeFrames_flatMap_encode, hleft, List.append_nil]
  -- Neither the loss itself nor anything later handles a response.
  obtain ⟨hnone, hinbox⟩ := silent_run (r := ((r.final before).move (.turn .route)).1)
    (by rw [hmove]; rfl) later
  have hhandled : ((r.final before).trace (.turn .route :: later)).handled = [] := by
    rw [trace_cons, Trace.handled_append, hfirst, hnone]
    rfl
  have hafter : r.final (before ++ [.turn .route]) = ((r.final before).move (.turn .route)).1 := by
    rw [final_append, final_cons, final_nil]
  exact
    { router := rfl
      handled := by rw [hframes]
      cause := ⟨cause, by rw [hmove]; exact List.mem_cons_self, by
        rw [hframes, ← hending]
        exact hcause⟩
      cleared := by
        rw [hafter, hmove]
        rfl
      gauge := by
        rw [trace_append, trace_cons, trace_nil, List.append_nil, hmove, Metrics.observeAll_append]
        exact pending_observeAll_loseDevice _ _ _
      silent := fun c => by rw [Trace.inboxed, Trace.routed_of_handled hhandled]; rfl
      inbox := fun c => by
        rw [final_append, final_cons]
        exact (hinbox c).trans (inbox_of_handled hfirst c)
      routed := by
        rw [trace_append, Metrics.observeAll_append, Metrics.routed_observeAll,
          Trace.routed_of_handled hhandled]
        rfl
      misses := by
        rw [trace_append, Metrics.observeAll_append, Metrics.misses_observeAll,
          Trace.missed_of_handled hhandled]
        rfl }

/-- **The loss of the device is final.** The connection counts as up until the first failure, and as
down ever after; it is down just if this relay has added to the errors of the device. The router
adds one at most, when it has handled all frames that came before the failure, and with it the table
is emptied; from then on no response goes into a mailbox or is counted as missed, whatever happens.
The dispatcher goes on: unless the relay is cancelled, it has a turn to take as long as there are
requests. -/
theorem loss_is_final (hr : r.Fresh) (m : Metrics) (ms : List Move) :
    ((r.final ms).deviceUp = false ↔ ∃ e ∈ r.trace ms, e.isDeviceFailure = true) ∧
    (∀ ps, ps <+: ms → (r.final ps).deviceUp = false → (r.final ms).deviceUp = false) ∧
    ((r.final ms).deviceUp = false ↔
      m.downstreamErrors < (m.observeAll (r.trace ms)).downstreamErrors) ∧
    (r.trace ms).losses.length ≤ 1 ∧
    (∀ before move later, ms = before ++ move :: later →
      .deviceLost ∈ ((r.final before).move move).2 → r.Lost m before move later) ∧
    (.input .cancel ∉ ms → (r.final ms).dispatcher ≠ .unstarted → (r.final ms).unsettled ≠ [] →
      ∃ t, (t = .take ∨ t = .record ∨ t = .write) ∧ (r.final ms).turn? t ≠ none) := by
  obtain ⟨hfailure, herror⟩ := deviceUp_final hr ms
  refine ⟨hfailure, fun ps hps hdown => deviceUp_of_prefix hr hps hdown, herror.trans ?_,
    losses_le hr ms, ?_, fun hms => dispatcher_goes_on hr hms⟩
  · rw [Metrics.downstreamErrors_observeAll, Nat.lt_add_right_iff_pos, List.length_pos_iff]
  · rintro before move later rfl hlost
    exact lost_of_deviceLost hr m hlost later

/-- Of two requests of a client one is written, and its answer comes in one piece with a header whose
length field no frame has. -/
def untilMalformed : List Move :=
  [ .input (.serve ⟨.v4 10 0 0 9, 40000⟩), .turn (.begin 0),
    .input (.clientSends 0 [0, 1, 0, 0, 0, 2, 1, 3, 0, 2, 0, 0, 0, 2, 1, 3]),
    .turn (.intake 0), .turn (.intake 0), .input .startDispatcher,
    .turn .take, .turn .record, .turn .write,
    .input (.deviceSends [0, 1, 0, 0, 0, 2, 1, 3, 0, 2, 0, 0, 0, 0, 1]), .turn .route ]

/-- The other request is recorded, while the device sends more and resets the connection. -/
def afterMalformed : List Move :=
  [ .turn .take, .input (.deviceSends [0, 2, 0, 0, 0, 2, 1, 3]), .turn .record,
    .input (.deviceEnds (.broken .connectionReset)), .turn .route ]

/-- The one answer is handed over before the device is lost. The second request is recorded after
it and may still be written, but what the device sends is not read any more. -/
theorem loss_after_untilMalformed :
    let ms := untilMalformed ++ .turn .route :: afterMalformed
    let s := (ofSettings {}).final ms
    let m := Metrics.ofEvents ((ofSettings {}).trace ms)
    (ofSettings {}).Fresh ∧ s.deviceUp = false ∧ 0 < m.downstreamErrors ∧
      (ofSettings {}).Lost {} untilMalformed (.turn .route) afterMalformed ∧ m.routed = 1 ∧
      s.pending.size = 1 ∧ ∃ t, (t = .take ∨ t = .record ∨ t = .write) ∧ s.turn? t ≠ none := by
  intro ms s m
  have hr := fresh_ofSettings {}
  obtain ⟨-, -, herrors, -, hlost, hgoesOn⟩ := loss_is_final hr {} ms
  have hdown : s.deviceUp = false := by decide +kernel
  have hlost := hlost _ _ _ rfl (by decide +kernel)
  refine ⟨hr, hdown, herrors.mp hdown, hlost, hlost.routed.trans ?_, ?_,
    hgoesOn (by decide) ?_ ?_⟩
  · decide +kernel
  · decide +kernel
  · decide +kernel
  · decide +kernel

end Relay

end ModbusRelay
