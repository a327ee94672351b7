import ModbusRelay.Proofs.Metrics.LeftOut

/-!
What the counters count.

A counter is the number of events of its kind (`counter_observeAll`): of the requests that were read,
forwarded, refused and not written, and of the responses that were routed and missed. Only the
errors of the device have two sources, a write that fails and the loss of the device.
-/

namespace ModbusRelay

namespace RelayEvent

/-- The request that a session has read, with the class it is counted in. -/
def read? : RelayEvent → Option (Priority × Request)
  | .received p q => some (p, q)
  | _ => none

/-- The request whose write has failed. -/
def unwritten? : RelayEvent → Option Request
  | .forwardFailed q _ => some q
  | _ => none

/-- The device has been given up. -/
def lost? : RelayEvent → Option Unit
  | .deviceLost => some ()
  | _ => none

/-- An error of the device: the request whose write has failed, if it is that. -/
def deviceError? : RelayEvent → Option (Option Request)
  | .forwardFailed q _ => some (some q)
  | .deviceLost => some none
  | _ => none

/-- The response that nobody waits for. -/
def missed? : RelayEvent → Option Frame
  | .missed f => some f
  | _ => none

end RelayEvent

namespace Trace

/-- The requests that sessions have read, with the classes they are counted in. -/
abbrev read (es : Trace) : List (Priority × Request) := es.filterMap RelayEvent.read?

/-- The requests whose write has failed. -/
abbrev unwritten (es : Trace) : List Request := es.filterMap RelayEvent.unwritten?

/-- The responses that nobody waited for. -/
abbrev missed (es : Trace) : List Frame := es.filterMap RelayEvent.missed?

/-- One for each time that the device was given up. -/
abbrev losses (es : Trace) : List Unit := es.filterMap RelayEvent.lost?

/-- The errors of the device. -/
abbrev deviceErrors (es : Trace) : List (Option Request) :=
  es.filterMap RelayEvent.deviceError?

/-- An error of the device is a write that has failed, or the loss of the device. -/
theorem length_deviceErrors (es : Trace) :
    es.deviceErrors.length = es.unwritten.length + es.losses.length := by
  induction es with
  | nil => rfl
  | cons e es ih =>
    cases e with
    | forwardFailed q cause =>
      show (deviceErrors es).length + 1 = (unwritten es).length + 1 + (losses es).length
      omega
    | deviceLost =>
      show (deviceErrors es).length + 1 = (unwritten es).length + ((losses es).length + 1)
      omega
    | _ => exact ih

end Trace

namespace Metrics

/-- A counter that grows by one with each event of a kind grows by the number of these events. -/
theorem counter_observeAll {β : Type} (counter : Metrics → Nat) {kind : RelayEvent → Option β}
    (step : ∀ m e, counter (m.observe e) = counter m + (kind e).toList.length) (m : Metrics)
    (es : Trace) : counter (m.observeAll es) = counter m + (es.filterMap kind).length := by
  induction es generalizing m with
  | nil => rfl
  | cons e es ih =>
    have hstep : m.observeAll (e :: es) = (m.observe e).observeAll es := rfl
    have hfirst : ((e :: es).filterMap kind).length =
        (kind e).toList.length + (es.filterMap kind).length := by
      rw [List.filterMap_cons]
      cases kind e
      · exact (Nat.zero_add _).symm
      · exact Nat.add_comm _ 1
    rw [hstep, ih, step, hfirst, Nat.add_assoc]

/-- A counter that grows by one with each event of a kind is the number of these events. -/
theorem counter_ofEvents {β : Type} (counter : Metrics → Nat) {kind : RelayEvent → Option β}
    (start : counter {} = 0)
    (step : ∀ m e, counter (m.observe e) = counter m + (kind e).toList.length) (es : Trace) :
    counter (ofEvents es) = (es.filterMap kind).length := by
  rw [ofEvents, counter_observeAll counter step, start, Nat.zero_add]

theorem forwarded_observeAll (m : Metrics) (es : Trace) :
    (m.observeAll es).forwarded = m.forwarded + es.forwarded.length := by
  refine counter_observeAll forwarded (fun m e => ?_) m es
  cases e with
  | received p q => cases p <;> rfl
  | _ => rfl

theorem forwarded_ofEvents (es : Trace) : (ofEvents es).forwarded = es.forwarded.length :=
  (forwarded_observeAll {} es).trans (Nat.zero_add _)

theorem duplicateRejections_observeAll (m : Metrics) (es : Trace) :
    (m.observeAll es).duplicateRejections = m.duplicateRejections + es.refused.length := by
  refine counter_observeAll duplicateRejections (fun m e => ?_) m es
  cases e with
  | received p q => cases p <;> rfl
  | _ => rfl

theorem duplicateRejections_ofEvents (es : Trace) :
    (ofEvents es).duplicateRejections = es.refused.length :=
  (duplicateRejections_observeAll {} es).trans (Nat.zero_add _)

theorem routed_observeAll (m : Metrics) (es : Trace) :
    (m.observeAll es).routed = m.routed + es.routed.length := by
  refine counter_observeAll routed (fun m e => ?_) m es
  cases e with
  | received p q => cases p <;> rfl
  | _ => rfl

theorem routed_ofEvents (es : Trace) : (ofEvents es).routed = es.routed.length :=
  (routed_observeAll {} es).trans (Nat.zero_add _)

theorem misses_observeAll (m : Metrics) (es : Trace) :
    (m.observeAll es).misses = m.misses + es.missed.length := by
  refine counter_observeAll misses (fun m e => ?_) m es
  cases e with
  | received p q => cases p <;> rfl
  | _ => rfl

theorem misses_ofEvents (es : Trace) : (ofEvents es).misses = es.missed.length :=
  (misses_observeAll {} es).trans (Nat.zero_add _)

theorem downstreamErrors_observeAll (m : Metrics) (es : Trace) :
    (m.observeAll es).downstreamErrors = m.downstreamErrors + es.deviceErrors.length := by
  refine counter_observeAll downstreamErrors (fun m e => ?_) m es
  cases e with
  | received p q => cases p <;> rfl
  | _ => rfl

theorem downstreamErrors_ofEvents (es : Trace) :
    (ofEvents es).downstreamErrors = es.unwritten.length + es.losses.length := by
  rw [← Trace.length_deviceErrors]
  exact (downstreamErrors_observeAll {} es).trans (Nat.zero_add _)

/-- The requests that sessions of a class have read. -/
theorem ofClass_read (p : Priority) (es : Trace) : ofClass p es.read =
    es.filterMap fun e => e.read?.bind fun x => if x.1 = p then some x.2 else none :=
  List.filterMap_filterMap

theorem queuedHigh_ofEvents (es : Trace) :
    (ofEvents es).queuedHigh = (ofClass .high es.read).length := by
  rw [ofClass_read]
  refine counter_ofEvents queuedHigh rfl (fun m e => ?_) es
  cases e with
  | received p q => cases p <;> rfl
  | _ => rfl

theorem queuedNormal_ofEvents (es : Trace) :
    (ofEvents es).queuedNormal = (ofClass .normal es.read).length := by
  rw [ofClass_read]
  refine counter_ofEvents queuedNormal rfl (fun m e => ?_) es
  cases e with
  | received p q => cases p <;> rfl
  | _ => rfl

end Metrics

end ModbusRelay
