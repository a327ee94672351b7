import Mathlib.Data.List.Infix
import ModbusRelay.Proofs.Relay.Run

/-!
What the device sends, and which requests it answers.

The router reads the device's bytes frame by frame, so the responses that it has handled are always
the first ones that the device has sent (`handled_isPrefix`), and the response of the next turn is
the one after these (`responses_of_next`).

`AnswersOnce` is what a well-behaved device keeps to: each response answers a request that it has
got, under the transaction id of that request, and no request is answered twice. The order of the
answers is free; a device that keeps to the order of the requests `AnswersInOrder`.
-/

namespace ModbusRelay

/-- The bytes that the device sends in a move. -/
def Move.deviceBytes : Move → List UInt8
  | .input (.deviceSends bytes) => bytes
  | _ => []

/-- All bytes that the device sends in a run. -/
def deviceBytes (ms : List Move) : List UInt8 := ms.flatMap Move.deviceBytes

/-- The responses that the device has sent in full, in order. -/
def responses (ms : List Move) : List Frame := (takeFrames (deviceBytes ms)).1

theorem Move.deviceBytes_of_silent {m : Move} (h : ∀ bytes, m ≠ .input (.deviceSends bytes)) :
    m.deviceBytes = [] := by
  unfold Move.deviceBytes
  split
  · next bytes => exact absurd rfl (h bytes)
  · rfl

@[simp]
theorem deviceBytes_append (ms ns : List Move) :
    deviceBytes (ms ++ ns) = deviceBytes ms ++ deviceBytes ns :=
  List.flatMap_append

@[simp]
theorem deviceBytes_singleton (m : Move) : deviceBytes [m] = m.deviceBytes := by
  simp [deviceBytes]

/-- Frames at the front of the bytes are the first responses. -/
theorem prefix_takeFrames {fs : List Frame} {bytes : List UInt8}
    (h : fs.flatMap (·.encode) <+: bytes) : fs <+: (takeFrames bytes).1 := by
  obtain ⟨rest, rfl⟩ := h
  rw [takeFrames_flatMap_encode]
  exact List.prefix_append _ _

theorem deviceBytes_mono {ms ns : List Move} (h : ms <+: ns) :
    deviceBytes ms <+: deviceBytes ns := by
  obtain ⟨rest, rfl⟩ := h
  rw [deviceBytes_append]
  exact List.prefix_append _ _

/-- What has been sent in full stays sent. -/
theorem responses_mono {ms ns : List Move} (h : ms <+: ns) : responses ms <+: responses ns := by
  refine prefix_takeFrames (List.IsPrefix.trans ?_ (deviceBytes_mono h))
  exact flatMap_takeFrames_isPrefix (deviceBytes ms)

namespace Relay

/-! ## The router reads in order -/

/-- How the bytes sent split up: the responses handled, what the router has not read, and, once
the device has ended its sending, what came too late. -/
structure Reads (r : Relay) (es : Trace) (bytes : List UInt8) : Prop where
  handled : es.handled.flatMap (·.encode) <+: bytes
  unread : r.routing = true →
    ∃ late, es.handled.flatMap (·.encode) ++ r.device.input.buffer ++ late = bytes ∧
      (r.device.input.ended = false → late = [])

theorem reads_start {r : Relay} (hr : r.Fresh) : r.Reads [] [] where
  handled := List.prefix_refl _
  unread _ := ⟨[], by rw [hr.device]; rfl, fun _ => rfl⟩

/-- Steps in which nothing comes from the device and the router reads nothing. -/
theorem Reads.congr {r r' : Relay} {es es' : Trace} {bytes more : List UInt8}
    (h : r.Reads es bytes)
    (hinput : r'.routing = true → r.routing = true ∧ r'.device.input = r.device.input)
    (hhandled : es'.handled = []) (hmore : more = []) :
    r'.Reads (es ++ es') (bytes ++ more) := by
  subst hmore
  rw [List.append_nil]
  have heq : (es ++ es').handled = es.handled := by
    rw [Trace.handled, List.filterMap_append]
    rw [Trace.handled] at hhandled
    rw [hhandled, List.append_nil]
  refine ⟨by rw [heq]; exact h.handled, fun hrouting => ?_⟩
  obtain ⟨hrouting, hsame⟩ := hinput hrouting
  rw [heq, hsame]
  exact h.unread hrouting

/-- Bytes come from the device. -/
theorem Reads.sent {r : Relay} {es : Trace} {bytes : List UInt8} (h : r.Reads es bytes)
    (more : List UInt8) : (r.withDeviceInput (·.feed more)).Reads (es ++ []) (bytes ++ more) := by
  rw [List.append_nil]
  refine ⟨h.handled.trans (List.prefix_append _ _), fun hrouting => ?_⟩
  rw [withDeviceInput_routing] at hrouting
  obtain ⟨late, hbytes, hlate⟩ := h.unread hrouting
  unfold withDeviceInput FrameReader.feed
  rw [if_pos hrouting]
  by_cases hended : r.device.input.ended = true
  · refine ⟨late ++ more, ?_, ?_⟩
    · simp [hended, ← hbytes]
    · simp [hended]
  · obtain rfl := hlate (by simpa using hended)
    refine ⟨[], ?_, fun _ => rfl⟩
    simp [hended, ← hbytes]

/-- The router reads the next response. -/
theorem Reads.routed {r r' : Relay} {es es' : Trace} {bytes : List UInt8} (h : r.Reads es bytes)
    (hrouting : r.routing = true) {f : Frame}
    (hnext : r.device.input.next = (.item (.frame f), r'.device.input))
    (hhandled : es'.handled = [f]) : r'.Reads (es ++ es') (bytes ++ []) := by
  rw [List.append_nil]
  obtain ⟨late, hbytes, hlate⟩ := h.unread hrouting
  obtain ⟨hbuffer, hending⟩ := FrameReader.next_eq_frame_iff.mp hnext
  have heq : (es ++ es').handled = es.handled ++ [f] := by
    rw [Trace.handled, List.filterMap_append]
    rw [Trace.handled] at hhandled
    rw [hhandled]
  rw [hbuffer] at hbytes
  refine ⟨?_, fun _ => ⟨late, ?_, ?_⟩⟩
  · rw [heq, ← hbytes]
    simp
  · rw [heq, ← hbytes]
    simp
  · unfold FrameReader.ended
    rw [hending]
    exact hlate

theorem Reads.step {r r' : Relay} {m : Move} {es es' : Trace} {bytes : List UInt8}
    (h : r.Reads es bytes) (hs : Step r m r' es') :
    r'.Reads (es ++ es') (bytes ++ m.deviceBytes) := by
  cases hs with
  | aside _ _ _ _ _ silent quiet =>
    exact h.congr (fun hrouting => ⟨hrouting, rfl⟩) (Trace.handled_aside quiet)
      (Move.deviceBytes_of_silent silent)
  | deviceSent => exact h.sent _
  | deviceEnded =>
    show Reads _ (es ++ []) (bytes ++ [])
    rw [List.append_nil, List.append_nil]
    refine ⟨h.handled, fun hrouting => ?_⟩
    rw [withDeviceInput_routing] at hrouting
    obtain ⟨late, hbytes, -⟩ := h.unread hrouting
    refine ⟨late, ?_, ?_⟩
    · simpa [withDeviceInput, hrouting] using hbytes
    · simp [withDeviceInput, hrouting]
  | routed _ routing next verdict => exact h.routed routing next (verdict.trace _).1
  | lost _ told =>
    refine h.congr (fun hrouting => ?_) (r.trace_loseDevice told).1 rfl
    cases hrouting
  | routerStopped =>
    refine h.congr (fun hrouting => ?_) rfl rfl
    cases hrouting
  | _ => exact h.congr (fun hrouting => ⟨hrouting, rfl⟩) rfl rfl

theorem reads {r : Relay} (hr : r.Fresh) (ms : List Move) :
    (r.final ms).Reads (r.trace ms) (deviceBytes ms) := by
  refine prefix_induction (r := r) (P := fun ms s es => s.Reads es (deviceBytes ms))
    (reads_start hr) ?_ ms (List.prefix_refl ms)
  intro ps m r' es _ h hs
  rw [deviceBytes_append, deviceBytes_singleton]
  exact h.step hs

/-- The responses that the router has handled are the first ones sent. -/
theorem handled_isPrefix {r : Relay} (hr : r.Fresh) (ms : List Move) :
    (r.trace ms).handled <+: responses ms :=
  prefix_takeFrames (reads hr ms).handled

/-- The router reads the first response that it has not handled. -/
theorem responses_of_next {r : Relay} (hr : r.Fresh) {ms : List Move} {f : Frame}
    {input : FrameReader} (hrouting : (r.final ms).routing = true)
    (hnext : (r.final ms).device.input.next = (.item (.frame f), input)) :
    (responses ms)[(r.trace ms).handled.length]? = some f := by
  obtain ⟨late, hbytes, -⟩ := (reads hr ms).unread hrouting
  rw [(FrameReader.next_eq_frame_iff.mp hnext).1] at hbytes
  have : (r.trace ms).handled ++ [f] <+: responses ms := by
    refine prefix_takeFrames ?_
    rw [← hbytes]
    simp
  obtain ⟨rest, hrest⟩ := this
  rw [← hrest]
  simp

/-! ## Answers -/

/-- The device answers each request that it has got at most once, under its transaction id:
response `k` is the answer to request `answered k` of those that the device has got. -/
structure AnswersOnce (r : Relay) (ms : List Move) (answered : Nat → Nat) : Prop where
  once : ∀ i j, i < (responses ms).length → j < (responses ms).length →
    answered i = answered j → i = j
  after : ∀ ps, ps <+: ms → ∀ k f, (responses ps)[k]? = some f →
    ∃ q, (r.trace ps).forwarded[answered k]? = some q ∧ q.transactionId = f.transactionId

/-- The device also answers in the order in which it has got the requests. -/
structure AnswersInOrder (r : Relay) (ms : List Move) (answered : Nat → Nat) : Prop
    extends AnswersOnce r ms answered where
  ordered : ∀ i j, i < j → j < (responses ms).length → answered i < answered j

/-- Whether a device keeps to this can be seen from the beginnings of the run. -/
theorem answersOnce_iff {r : Relay} {ms : List Move} {answered : Nat → Nat} :
    r.AnswersOnce ms answered ↔
      (∀ i < (responses ms).length, ∀ j < (responses ms).length,
        answered i = answered j → i = j) ∧
      ∀ ps ∈ ms.inits, ∀ k < (responses ps).length,
        (r.trace ps).forwarded[answered k]?.map (·.transactionId) =
          (responses ps)[k]?.map (·.transactionId) := by
  constructor
  · intro h
    refine ⟨fun i hi j hj => h.once i j hi hj, fun ps hps k hk => ?_⟩
    have hresponse := List.getElem?_eq_getElem hk
    obtain ⟨q, hq, hid⟩ := h.after ps (List.mem_inits _ _ |>.mp hps) k _ hresponse
    rw [hq, hresponse, Option.map_some, Option.map_some, hid]
  · rintro ⟨honce, hafter⟩
    refine ⟨fun i j hi hj => honce i hi j hj, fun ps hps k f hf => ?_⟩
    have hk := (List.getElem?_eq_some_iff.mp hf).1
    have := hafter ps (List.mem_inits _ _ |>.mpr hps) k hk
    rw [hf, Option.map_some] at this
    obtain ⟨q, hq, hid⟩ := Option.map_eq_some_iff.mp this
    exact ⟨q, hq, hid⟩

instance (r : Relay) (ms : List Move) (answered : Nat → Nat) :
    Decidable (r.AnswersOnce ms answered) :=
  decidable_of_iff _ answersOnce_iff.symm

/-- In order, each answer is to a later request than the one before. -/
theorem answersInOrder_iff {r : Relay} {ms : List Move} {answered : Nat → Nat} :
    r.AnswersInOrder ms answered ↔
      r.AnswersOnce ms answered ∧
        ∀ j < (responses ms).length, ∀ i < j, answered i < answered j :=
  ⟨fun h => ⟨h.toAnswersOnce, fun j hj i hij => h.ordered i j hij hj⟩,
    fun h => ⟨h.1, fun i j hij hj => h.2 j hj i hij⟩⟩

instance (r : Relay) (ms : List Move) (answered : Nat → Nat) :
    Decidable (r.AnswersInOrder ms answered) :=
  decidable_of_iff _ answersInOrder_iff.symm

end Relay

end ModbusRelay
