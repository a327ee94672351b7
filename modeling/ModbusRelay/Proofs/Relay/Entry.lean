import ModbusRelay.Proofs.Relay.Run

/-!
How entries come into the table, and how they are used up.

As long as only the dispatcher records, an entry that is there after a move has been recorded by
that move, or has been there before it (`entry_of_step`): displacing, purging, a failed write and
the loss of the device only take entries away. A response that is handed over takes the entry of its
id with it (`delivery_of_step`).
-/

namespace ModbusRelay

namespace Relay

variable {r r' : Relay} {m : Move} {es : Trace}

/-- Where an entry that is there after a move comes from. -/
inductive EntryFrom (r : Relay) (es : Trace) (id : UInt16) (e : PendingEntry Requester) : Prop where
  /-- The move has recorded it. -/
  | recorded {q : Request} (now : es.recorded = [q]) (under : q.transactionId = id)
      (made : e = ⟨id, q.requester, r.clock⟩)
  /-- It has been there before, and the move records nothing under its id. -/
  | kept (other : ∀ q ∈ es.recorded, q.transactionId ≠ id) (found : r.pending.find? id = some e)

theorem entry_of_step (hs : Step r m r' es) (honly : m.registers = false) {id : UInt16}
    {e : PendingEntry Requester} (he : r'.pending.find? id = some e) : EntryFrom r es id e := by
  have hold (hrecorded : es.recorded = []) (hfind : r.pending.find? id = some e) :
      EntryFrom r es id e := by
    refine .kept (fun q hq => ?_) hfind
    rw [hrecorded] at hq
    cases hq
  have htake {other : UInt16} (h : (r.pending.take other).2.find? id = some e) :
      r.pending.find? id = some e := by
    rw [PendingTable.find?_take] at h
    split at h
    · cases h
    · exact h
  have hinsert {q : Request} {answer : Option Requester} {pending : PendingTable Requester}
      (hins : r.pending.insert q.transactionId q.requester r.clock = (.ok answer, pending))
      (hrecorded : es.recorded = [q]) (h : pending.find? id = some e) : EntryFrom r es id e := by
    obtain rfl : (r.pending.insert q.transactionId q.requester r.clock).2 = pending :=
      congrArg Prod.snd hins
    by_cases hid : q.transactionId = id
    · subst hid
      rw [PendingTable.find?_insert_self (congrArg Prod.fst hins)] at h
      exact .recorded hrecorded rfl (Option.some.inj h).symm
    · refine .kept (fun q' hq' => ?_) (PendingTable.find?_of_find?_insert hid h)
      rw [hrecorded, List.mem_singleton] at hq'
      rw [hq']
      exact hid
  cases hs with
  | aside _ _ _ _ _ _ quiet => exact hold (Trace.recorded_aside quiet) he
  | registered => cases honly
  | deviceSent | deviceEnded =>
    rw [withDeviceInput_pending] at he
    exact hold rfl he
  | routed _ _ _ verdict => exact hold (verdict.trace _).2.2.2.2.1 (htake he)
  | lost _ told => cases he
  | recorded _ answer | displaced _ answer => exact hinsert answer rfl he
  | refused _ answer =>
    refine hold rfl ?_
    refine PendingTable.find?_of_find?_insert_error (congrArg Prod.fst answer) ?_
    rw [answer]
    exact he
  | unwritten => exact hold rfl (htake he)
  | _ => exact hold rfl he

/-- A move hands over one response at most, the next one that the device has sent, to whom the table
names for it; and the entry is used up by it. -/
theorem delivery_of_step (hs : Step r m r' es) :
    es.routed = [] ∨
      ∃ e f input, es.routed = [(e.value, f)] ∧ r.routing = true ∧
        r.device.input.next = (.item (.frame f), input) ∧
        r.pending.find? f.transactionId = some e ∧
        r'.pending.find? f.transactionId = none := by
  cases hs with
  | aside _ _ _ _ _ _ quiet => exact .inl (Trace.routed_aside quiet)
  | lost _ told => exact .inl (r.trace_loseDevice told).2.1
  | @routed f input event _ routing next verdict =>
    rw [PendingTable.take_fst] at verdict
    cases hfind : r.pending.find? f.transactionId with
    | none =>
      rw [hfind] at verdict
      obtain rfl : event = .missed f := verdict
      exact .inl rfl
    | some e =>
      rw [hfind] at verdict
      rcases verdict with rfl | rfl | rfl
      · refine .inr ⟨e, f, input, rfl, routing, next, hfind, ?_⟩
        show (r.pending.take f.transactionId).2.find? f.transactionId = none
        rw [PendingTable.find?_take, if_pos rfl]
      · exact .inl rfl
      · exact .inl rfl
  | _ => exact .inl rfl

end Relay

end ModbusRelay
