import ModbusRelay.Proofs.Relay.Entry
import ModbusRelay.Proofs.Relay.Outstanding

/-!
Whom a response goes to when several requests share an id.

The table has one entry for each id, and it is that of the last request recorded under the id
(`requester_of_entry`). A response is passed on by its id alone. So once a request has been
displaced by another of its id, its answer goes to the client of that other request, which takes it
for its own (`response_goes_to_last_recorded`, `late_answer_goes_astray`).
-/

namespace ModbusRelay

/-- The last request that was recorded under an id. -/
def Trace.lastRecorded? (es : Trace) (id : UInt16) : Option Request :=
  (es.recorded.filter (·.transactionId = id)).getLast?

theorem Trace.lastRecorded?_append_of_ne {es es' : Trace} {id : UInt16}
    (h : ∀ q ∈ es'.recorded, q.transactionId ≠ id) :
    (es ++ es').lastRecorded? id = es.lastRecorded? id := by
  have hnone : es'.recorded.filter (·.transactionId = id) = [] :=
    List.filter_eq_nil_iff.mpr fun q hq => by simpa using h q hq
  unfold lastRecorded?
  rw [recorded_append, List.filter_append, hnone, List.append_nil]

theorem Trace.lastRecorded?_append_of_singleton {es es' : Trace} {q : Request}
    (h : es'.recorded = [q]) (id : UInt16) :
    (es ++ es').lastRecorded? id =
      if q.transactionId = id then some q else es.lastRecorded? id := by
  unfold lastRecorded?
  rw [recorded_append, h, List.filter_append]
  by_cases hid : q.transactionId = id <;> simp [hid]

namespace Relay

variable {r : Relay}

/-- Every entry is that of the last request recorded under its id. -/
def NamesLast (r : Relay) (es : Trace) : Prop :=
  ∀ id e, r.pending.find? id = some e → ∃ q, es.lastRecorded? id = some q ∧ q.requester = e.value

theorem requester_of_entry (hr : r.Fresh) {all : List Move} (honly : OnlyDispatcherRecords all)
    {ms : List Move} (hall : ms <+: all) : (r.final ms).NamesLast (r.trace ms) := by
  refine prefix_induction (r := r) (P := fun _ => NamesLast) ?_ ?_ ms hall
  · intro id e he
    unfold PendingTable.find? at he
    rw [hr.entries] at he
    cases he
  · intro ps m r' (es : Trace) hm ih hs id e he
    have hdispatcher : m.registers = false :=
      honly m (hm.subset (List.mem_append_right ps List.mem_cons_self))
    cases entry_of_step hs hdispatcher he with
    | @recorded q now under made =>
      subst made
      exact ⟨q, by rw [Trace.lastRecorded?_append_of_singleton now, if_pos under], rfl⟩
    | kept other found =>
      rw [Trace.lastRecorded?_append_of_ne other]
      exact ih id e found

section Run

variable {all : List Move} {answered : Nat → Nat} (hr : r.Fresh)
  (honly : OnlyDispatcherRecords all) (hdevice : r.AnswersOnce all answered)

include hr honly hdevice

/-- Under every policy a response goes to the requester of the last request recorded under its id,
if the id is still in the table and the mailbox accepts it. It answers request `answered k` of those
that the device has got; so it goes astray just when some later request of another client has been
recorded under the same id, and is still in the table, and the mailbox of that client accepts it. -/
theorem response_goes_to_last_recorded {ps : List Move} {f : Frame} {input : FrameReader}
    (hm : ps ++ [.turn .route] <+: all) (hrouting : (r.final ps).routing = true)
    (hnext : (r.final ps).device.input.next = (.item (.frame f), input)) :
    ∃ q, (r.trace ps).forwarded[answered (r.trace ps).handled.length]? = some q ∧
      q.transactionId = f.transactionId ∧
      (∀ who, (who, f) ∈ Trace.routed ((r.final ps).move (.turn .route)).2 ↔
        (r.final ps).pending.contains f.transactionId = true ∧
          ∃ last, (r.trace ps).lastRecorded? f.transactionId = some last ∧ last.requester = who ∧
            (r.final ps).Accepts who.client) ∧
      ((∃ who, (who, f) ∈ Trace.routed ((r.final ps).move (.turn .route)).2 ∧
          who.client ≠ q.requester.client) ↔
        (r.final ps).pending.contains f.transactionId = true ∧
          ∃ last, (r.trace ps).lastRecorded? f.transactionId = some last ∧
            (r.final ps).Accepts last.requester.client ∧
            last.requester.client ≠ q.requester.client) := by
  have hps : ps <+: all := (List.prefix_append ps _).trans hm
  obtain ⟨q, hq, hid, -⟩ := next_answers hr hdevice hps hrouting hnext
  have hlast := requester_of_entry hr honly hps f.transactionId
  have hrouted (who : Requester) :
      (who, f) ∈ Trace.routed ((r.final ps).move (.turn .route)).2 ↔
        (r.final ps).pending.contains f.transactionId = true ∧
          ∃ last, (r.trace ps).lastRecorded? f.transactionId = some last ∧ last.requester = who ∧
            (r.final ps).Accepts who.client := by
    unfold PendingTable.contains
    rw [routed_iff, Option.isSome_iff_exists]
    constructor
    · rintro ⟨-, -, ⟨e, hfind, rfl⟩, haccepts⟩
      obtain ⟨last, hrecorded, hwho⟩ := hlast e hfind
      exact ⟨⟨e, hfind⟩, last, hrecorded, hwho, haccepts⟩
    · rintro ⟨⟨e, hfind⟩, last, hrecorded, hwho, haccepts⟩
      obtain ⟨last', hrecorded', hwho'⟩ := hlast e hfind
      rw [hrecorded] at hrecorded'
      cases hrecorded'
      exact ⟨hrouting, ⟨input, hnext⟩, ⟨e, hfind, hwho'.symm.trans hwho⟩, haccepts⟩
  refine ⟨q, hq, hid, hrouted, ?_⟩
  constructor
  · rintro ⟨who, hmem, hne⟩
    obtain ⟨hcontains, last, hrecorded, rfl, haccepts⟩ := (hrouted who).mp hmem
    exact ⟨hcontains, last, hrecorded, haccepts, hne⟩
  · rintro ⟨hcontains, last, hrecorded, haccepts, hne⟩
    exact ⟨last.requester, (hrouted _).mpr ⟨hcontains, last, hrecorded, rfl, haccepts⟩, hne⟩

end Run

/-! ## A late answer -/

/-- A relay whose table lets a later request displace an earlier one. -/
def displacing : Relay := ofSettings { duplicatePolicy := .replace }

/-- Two clients use the same id, and the device answers the first request after the second has
displaced it. -/
def sharedId : List Move :=
  [ .input (.serve ⟨.v4 10 0 0 9, 40000⟩), .input (.serve ⟨.v4 10 0 0 8, 40001⟩),
    .turn (.begin 0), .turn (.begin 1),
    .input (.clientSends 0 [0, 7, 0, 0, 0, 2, 1, 3]), .turn (.intake 0),
    .input (.clientSends 1 [0, 7, 0, 0, 0, 2, 1, 3]), .turn (.intake 1),
    .input .startDispatcher,
    .turn .take, .turn .record, .turn .write, .turn .take, .turn .record, .turn .write,
    .input (.deviceSends [0, 7, 0, 0, 0, 2, 1, 4]) ]

/-- The answer to the request of the first client is handed over to the second. -/
theorem routed_of_sharedId : ∃ x ∈ Trace.routed ((displacing.final sharedId).move (.turn .route)).2,
    x.1.client = 1 := by
  decide +kernel

/-- The request answered is that of the first client. -/
theorem forwarded_of_sharedId : ∃ q ∈ (displacing.trace sharedId).forwarded[0]?,
    q.requester.client = 0 := by
  decide +kernel

theorem handled_of_sharedId : (displacing.trace sharedId).handled.length = 0 := by
  decide +kernel

/-- The last request recorded under the id is that of the other client. -/
theorem response_of_sharedId :
    displacing.Fresh ∧ OnlyDispatcherRecords (sharedId ++ [.turn .route]) ∧
      displacing.AnswersOnce (sharedId ++ [.turn .route]) id ∧
      (displacing.final sharedId).routing = true ∧
      ∃ f q last, (∃ input, (displacing.final sharedId).device.input.next =
          (.item (.frame f), input)) ∧
        (displacing.trace sharedId).forwarded[0]? = some q ∧
        (displacing.trace sharedId).lastRecorded? f.transactionId = some last ∧
        last.requester.client ≠ q.requester.client := by
  have hr : displacing.Fresh := fresh_ofSettings _
  have honly : OnlyDispatcherRecords (sharedId ++ [.turn .route]) := by decide
  have hdevice : displacing.AnswersOnce (sharedId ++ [.turn .route]) id := by decide +kernel
  obtain ⟨⟨who, f⟩, hmem, hclient⟩ := routed_of_sharedId
  obtain ⟨hrouting, ⟨input, hnext⟩, -⟩ := routed_iff.mp hmem
  obtain ⟨q, hq, -, -, hstray⟩ :=
    response_goes_to_last_recorded hr honly hdevice (List.prefix_refl _) hrouting hnext
  rw [handled_of_sharedId] at hq
  obtain ⟨q', hq', hfirst⟩ := forwarded_of_sharedId
  obtain rfl : q = q' := Option.some.inj (hq.symm.trans hq')
  have hne : who.client ≠ q.requester.client := by
    rw [hfirst, show who.client = 1 from hclient]
    decide
  obtain ⟨-, last, hlast, -, hother⟩ := hstray.mp ⟨who, hmem, hne⟩
  exact ⟨hr, honly, hdevice, hrouting, f, q, last, ⟨input, hnext⟩, hq, hlast, hother⟩

/-- So not every client is given the answers to its own requests only, not even by a device that
answers in order. -/
theorem late_answer_goes_astray :
    ¬∀ (r : Relay) (all : List Move) (answered : Nat → Nat), r.Fresh → OnlyDispatcherRecords all →
      r.AnswersInOrder all answered →
      ∀ ps who f, ps ++ [.turn .route] <+: all →
        (who, f) ∈ Trace.routed ((r.final ps).move (.turn .route)).2 →
        ∃ q, (r.trace ps).forwarded[answered (r.trace ps).handled.length]? = some q ∧
          q.requester.client = who.client := by
  intro h
  obtain ⟨⟨who, f⟩, hmem, hclient⟩ := routed_of_sharedId
  obtain ⟨q, hq, hwho⟩ := h displacing (sharedId ++ [.turn .route]) id (fresh_ofSettings _)
    (by decide) (by decide +kernel) sharedId who f (List.prefix_refl _) hmem
  rw [handled_of_sharedId] at hq
  obtain ⟨q', hq', hfirst⟩ := forwarded_of_sharedId
  obtain rfl : q = q' := Option.some.inj (hq.symm.trans hq')
  rw [hfirst, show who.client = 1 from hclient] at hwho
  cases hwho

end Relay

end ModbusRelay
