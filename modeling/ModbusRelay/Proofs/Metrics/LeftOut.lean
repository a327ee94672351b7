import Mathlib.Data.List.Basic
import ModbusRelay.Metrics.Basic
import ModbusRelay.Proofs.Relay.Run

/-!
What becomes of the log and of the metrics when some events had not happened.

`LeftOut xs es es'` says that `es'` is `es` without the events `xs`. The log then lacks the lines of
`xs` and is otherwise the same (`LeftOut.filterMap`). If `xs` are the events of a single refused
request, the counters of queued and of refused requests lack what that request has added, and all
other counters are the same (`LeftOut.metrics`). The gauge of requests in flight is set and not
counted; it is the size of the table as long as only the dispatcher records (`pending_ofEvents`).
-/

namespace ModbusRelay

/-- The second list with the first left out is the third. -/
inductive LeftOut {α : Type} : List α → List α → List α → Prop where
  | nil : LeftOut [] [] []
  | both {xs es es' : List α} (e : α) (rest : LeftOut xs es es') : LeftOut xs (e :: es) (e :: es')
  | left {xs es es' : List α} (e : α) (rest : LeftOut xs es es') : LeftOut (e :: xs) (e :: es) es'

namespace LeftOut

variable {α : Type} {xs es es' : List α}

theorem both_append (fs : List α) (h : LeftOut xs es es') :
    LeftOut xs (fs ++ es) (fs ++ es') := by
  induction fs with
  | nil => exact h
  | cons f fs ih => exact .both f ih

theorem left_append (fs : List α) (h : LeftOut xs es es') :
    LeftOut (fs ++ xs) (fs ++ es) es' := by
  induction fs with
  | nil => exact h
  | cons f fs ih => exact .left f ih

theorem eq_of_nil (h : LeftOut [] es es') : es = es' := by
  generalize hxs : ([] : List α) = xs at h
  induction h with
  | nil => rfl
  | both e _ ih => rw [ih hxs]
  | left => cases hxs

theorem length_eq (h : LeftOut xs es es') : es.length = xs.length + es'.length := by
  induction h with
  | nil => rfl
  | both e _ ih => simp only [List.length_cons, ih, Nat.add_assoc]
  | left e _ ih => simp only [List.length_cons, ih, Nat.add_right_comm]

/-- What is read off one by one is left out as well. -/
theorem filterMap {β : Type} (f : α → Option β) (h : LeftOut xs es es') :
    LeftOut (xs.filterMap f) (es.filterMap f) (es'.filterMap f) := by
  induction h with
  | nil => exact .nil
  | both e _ ih =>
    rw [List.filterMap_cons, List.filterMap_cons]
    cases f e with
    | none => exact ih
    | some b => exact .both b ih
  | left e _ ih =>
    rw [List.filterMap_cons, List.filterMap_cons]
    cases f e with
    | none => exact ih
    | some b => exact .left b ih

end LeftOut

/-! ## Counters -/

/-- The refusal that an event is. -/
def RelayEvent.refused? : RelayEvent → Option (Request × PendingError)
  | .refused q cause => some (q, cause)
  | _ => none

/-- The refusals. -/
abbrev Trace.refused (es : Trace) : List (Request × PendingError) :=
  es.filterMap RelayEvent.refused?

/-- May the event be one of a refused request of the given class? -/
def RelayEvent.ofRefusal (p : Priority) : RelayEvent → Bool
  | .received p' _ => p' = p
  | .enqueued .. | .taken .. | .pending _ | .refused .. => true
  | _ => false

/-- The log of a run. -/
abbrev Trace.log (es : Trace) : List LogLine := es.filterMap RelayEvent.logLine?

/-- The line of a request that a session has read. -/
def readingLine (p : Priority) (q : Request) : LogLine :=
  ⟨.debug, "Enqueueing request",
    [ ("transaction_id", .number q.transactionId.toNat), ("priority", .text p.label),
      ("len", .number q.frame.size) ]⟩

/-- The line of a refusal. -/
def refusalLine (q : Request) (cause : PendingError) : LogLine :=
  ⟨.warn, "Dropping request", RelayEvent.requestFields q ++ [("error", .text cause.message)]⟩

/-- A refused request puts nothing into a mailbox. -/
theorem routed_of_refusal {p : Priority} {ys : Trace} (h : ∀ e ∈ ys, e.ofRefusal p = true) :
    ys.routed = [] := by
  refine List.filterMap_eq_nil_iff.mpr fun e he => ?_
  have he := h e he
  cases e <;> first | rfl | cases he

namespace Metrics

/-- The metrics with some more requests of a class queued, and some more refused. -/
def plus (m : Metrics) (p : Priority) (queued refused : Nat) : Metrics :=
  { m with
    queuedHigh := m.queuedHigh + if p = .high then queued else 0
    queuedNormal := m.queuedNormal + if p = .normal then queued else 0
    duplicateRejections := m.duplicateRejections + refused }

/-- All counters are the same but for some more requests queued, and some more refused. Of the
gauge of requests in flight nothing is said. -/
def SameBut (p : Priority) (queued refused : Nat) (m m' : Metrics) : Prop :=
  m = { m'.plus p queued refused with pending := m.pending }

variable {p : Priority} {queued refused : Nat} {m m' : Metrics}

theorem sameBut_refl (p : Priority) (m : Metrics) : SameBut p 0 0 m m := by
  unfold SameBut plus
  cases p <;> rfl

theorem SameBut.observe (h : SameBut p queued refused m m') (e : RelayEvent) :
    SameBut p queued refused (m.observe e) (m'.observe e) := by
  unfold SameBut at h
  rw [h]
  cases e with
  | received p' q => cases p' <;> cases p <;> simp [SameBut, plus, Metrics.observe] <;> omega
  | refused q cause => simp [SameBut, plus, Metrics.observe]; omega
  | _ => rfl

theorem SameBut.observe_left (h : SameBut p queued refused m m') {e : RelayEvent}
    (he : e.ofRefusal p = true) :
    SameBut p (queued + (Trace.received [e]).length) (refused + (Trace.refused [e]).length)
      (m.observe e) m' := by
  unfold SameBut at h
  rw [h]
  cases e with
  | received p' q =>
    obtain rfl : p' = p := by simpa [RelayEvent.ofRefusal] using he
    cases p' <;> rfl
  | enqueued | taken | pending | refused => rfl
  | _ => cases he

end Metrics

theorem LeftOut.metrics {xs es es' : Trace} {p : Priority} (h : LeftOut xs es es')
    (hxs : ∀ e ∈ xs, e.ofRefusal p = true) {m m' : Metrics} {queued refused : Nat}
    (hm : Metrics.SameBut p queued refused m m') :
    Metrics.SameBut p (queued + xs.received.length) (refused + xs.refused.length)
      (m.observeAll es) (m'.observeAll es') := by
  induction h generalizing m m' queued refused with
  | nil => exact hm
  | both e _ ih => exact ih hxs (hm.observe e)
  | @left xs es es' e _ ih =>
    have hreceived : (Trace.received (e :: xs)).length =
        (Trace.received [e]).length + (Trace.received xs).length := by
      rw [show e :: xs = [e] ++ xs from rfl, Trace.received_append, List.length_append]
    have hrefused : (Trace.refused (e :: xs)).length =
        (Trace.refused [e]).length + (Trace.refused xs).length := by
      rw [show e :: xs = [e] ++ xs from rfl, Trace.refused, List.filterMap_append,
        List.length_append]
    rw [hreceived, hrefused, ← Nat.add_assoc, ← Nat.add_assoc]
    exact ih (fun e he => hxs e (List.mem_cons_of_mem _ he))
      (hm.observe_left (hxs e List.mem_cons_self))

/-! ## The gauge -/

namespace Relay

theorem pending_observeAll_aside {es : Trace} (h : ∀ e ∈ es, e.isAside) (m : Metrics) :
    (m.observeAll es).pending = m.pending := by
  induction es generalizing m with
  | nil => rfl
  | cons e es ih =>
    show ((m.observe e).observeAll es).pending = m.pending
    rw [ih fun e' he' => h e' (List.mem_cons_of_mem e he')]
    have he := h e List.mem_cons_self
    cases e <;> first | rfl | cases he

/-- The gauge shows the size of the table as long as only the dispatcher records. -/
theorem pending_observeAll {r : Relay} (hr : r.Fresh) {ms : List Move}
    (honly : OnlyDispatcherRecords ms) {metrics : Metrics} (hmetrics : metrics.pending = 0) :
    (metrics.observeAll (r.trace ms)).pending = (r.final ms).pending.size := by
  refine prefix_induction (r := r) (P := fun _ s es =>
    (metrics.observeAll es).pending = s.pending.size) ?_ ?_ ms (List.prefix_refl ms)
  · unfold PendingTable.size
    rw [hr.entries]
    exact hmetrics
  · intro ps m r' (es : Trace) hm ih hs
    rw [Metrics.observeAll_append]
    generalize Metrics.observeAll metrics (r.trace ps) = metrics at ih
    generalize r.final ps = r₀ at ih hs
    cases hs with
    | aside _ _ _ _ _ _ quiet =>
      rw [pending_observeAll_aside quiet]
      exact ih
    | received peer =>
      generalize Priority.ofPeer peer = p
      cases p <;> exact ih
    | pushed | drained | deviceBroke | started | slept | taken | routerStopped | dispatcherUnused
    | dispatcherStopped | forwarded => exact ih
    | registered => cases honly _ (hm.subset (List.mem_append_right ps List.mem_cons_self))
    | deviceSent | deviceEnded =>
      rw [withDeviceInput_pending]
      exact ih
    | @routed f input e clients routing next verdict =>
      unfold Verdict at verdict
      split at verdict
      · subst verdict
        rfl
      · rcases verdict with rfl | rfl | rfl <;> rfl
    | lost _ told =>
      unfold loseDevice
      rcases told with rfl | ⟨e, rfl⟩ <;> split <;> rfl
    | recorded | displaced | refused | unwritten => rfl

theorem pending_ofEvents {r : Relay} (hr : r.Fresh) {ms : List Move}
    (honly : OnlyDispatcherRecords ms) :
    (Metrics.ofEvents (r.trace ms)).pending = (r.final ms).pending.size :=
  pending_observeAll hr honly rfl

end Relay

end ModbusRelay
