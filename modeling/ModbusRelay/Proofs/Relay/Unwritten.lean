import ModbusRelay.Proofs.Metrics.Counters
import ModbusRelay.Proofs.Pending.History
import ModbusRelay.Proofs.Relay.Account
import ModbusRelay.Proofs.Relay.Held
import ModbusRelay.Proofs.Relay.Work

/-!
What a failed write takes back.

The dispatcher records a request in one turn and writes it in a later one. In between everybody else
may move: the router may have used up the entry, or cleared it with all others when the device was
lost. When the write then fails, the dispatcher takes the entry of the id out of the table without
looking whose it is. It can be no other than its own, since nobody else records.

`unwritten_step` says what one move in between does to the table: it performs the operations of the
router, which can be read off the events (`routerOp?`), and no other. `Unwritten` is that for all
moves in between, and what the failed write leaves behind follows from it.
-/

namespace ModbusRelay

/-- The operation of the router on the table that an event tells of. -/
def RelayEvent.routerOp? : RelayEvent → Option (PendingOp Requester)
  | .deviceLost => some .clear
  | e => e.handled?.map fun f => .take f.transactionId

namespace Trace

/-- The operations of the router on the table. -/
abbrev routerOps (es : Trace) : List (PendingOp Requester) :=
  es.filterMap RelayEvent.routerOp?

theorem routerOps_append (es es' : Trace) :
    (es ++ es').routerOps = es.routerOps ++ es'.routerOps :=
  List.filterMap_append

theorem routerOps_aside {es : Trace} (h : ∀ e ∈ es, e.isAside) : es.routerOps = [] :=
  filterMap_of_kind h fun e he => by cases e <;> first | rfl | cases he

end Trace

@[simp]
theorem PendingTable.performAll_append {α : Type} (t : PendingTable α)
    (ops ops' : List (PendingOp α)) :
    t.performAll (ops ++ ops') = (t.performAll ops).performAll ops' :=
  List.foldl_append

namespace Relay

variable {r : Relay}

/-! ## The request is recorded -/

/-- What it takes to record a request. -/
theorem recorded_of_record {q : Request}
    (h : Trace.recorded (r.move (.turn .record)).2 = [q]) :
    (∃ p, r.dispatcher = .holding p q) ∧ (r.move (.turn .record)).1.dispatcher = .writing q ∧
      (r.move (.turn .record)).1.pending =
        (r.pending.insert q.transactionId q.requester r.clock).2 ∧
      (r.move (.turn .record)).1.pending.find? q.transactionId =
        some ⟨q.transactionId, q.requester, r.clock⟩ ∧
      Trace.forwarded (r.move (.turn .record)).2 = [] := by
  rcases r.turned_or_idle .record with hturned | hidle
  · generalize (r.move (.turn .record)).1 = r' at hturned ⊢
    generalize (r.move (.turn .record)).2 = es at h hturned ⊢
    cases hturned with
    | recorded holding answer | displaced holding answer =>
      cases h
      refine ⟨⟨_, holding⟩, rfl, by rw [answer], ?_, rfl⟩
      have hfind := PendingTable.find?_insert_self (congrArg Prod.fst answer)
      rwa [answer] at hfind
    | refused => cases h
  · rw [hidle] at h
    cases h

/-! ## The request is recorded and not written -/

/-- What a move does to the table while the dispatcher writes a request or has ended. -/
theorem unwritten_step {r' : Relay} {m : Move} {es : Trace} {q : Request} (hs : Step r m r' es)
    (hwrite : m ≠ .turn .write) (honly : m.registers = false)
    (h : r.dispatcher = .writing q ∨ r.dispatcher = .ended) :
    (r'.dispatcher = .writing q ∨ r'.dispatcher = .ended) ∧
      r'.pending = r.pending.performAll es.routerOps ∧ es.recorded = [] ∧ es.forwarded = [] := by
  have hbusy {d : Dispatcher} (hd : r.dispatcher = d) (hwriting : d ≠ .writing q)
      (hended : d ≠ .ended) : False := by
    rw [hd] at h
    exact h.elim hwriting hended
  cases hs with
  | aside _ _ _ _ _ _ quiet =>
    rw [Trace.routerOps_aside quiet]
    exact ⟨h, rfl, Trace.recorded_aside quiet, Trace.forwarded_aside quiet⟩
  | registered => cases honly
  | deviceSent | deviceEnded => exact ⟨by simpa using h, by simp, rfl, rfl⟩
  | @routed f input e _ _ _ verdict =>
    obtain ⟨hhandled, -, -, -, hrecorded, hforwarded⟩ := verdict.trace 0
    have hops : Trace.routerOps [.pending (r.pending.take f.transactionId).2.size, e] =
        [.take f.transactionId] := by
      unfold Verdict at verdict
      split at verdict
      · rw [verdict]
        rfl
      · rcases verdict with rfl | rfl | rfl <;> rfl
    rw [hops]
    exact ⟨h, rfl, hrecorded, hforwarded⟩
  | @lost cause _ told =>
    obtain ⟨-, -, -, -, -, hrecorded, hforwarded⟩ := r.trace_loseDevice told
    have hops : Trace.routerOps (cause :: r.loseDevice.2) = [.clear] := by
      unfold loseDevice
      rcases told with rfl | ⟨e, rfl⟩ <;> split <;> rfl
    rw [hops]
    exact ⟨h, rfl, hrecorded, hforwarded⟩
  | started unstarted => exact (hbusy unstarted (by simp) (by simp)).elim
  | slept idle | taken idle => exact (hbusy idle (by simp) (by simp)).elim
  | recorded holding | displaced holding | refused holding =>
    exact (hbusy holding (by simp) (by simp)).elim
  | forwarded | unwritten => exact absurd rfl hwrite
  | dispatcherUnused | dispatcherStopped => exact ⟨.inr rfl, rfl, rfl, rfl⟩
  | _ => exact ⟨h, rfl, rfl, rfl⟩

/-- The moves up to a write, by those before the turn that records and those after it. -/
def untilWrite (before between : List Move) : List Move := before ++ [.turn .record] ++ between

theorem final_untilWrite (r : Relay) (before between : List Move) :
    r.final (untilWrite before between) = (r.final (before ++ [.turn .record])).final between :=
  r.final_append (before ++ [.turn .record]) between

theorem untilWrite_nil (before : List Move) : untilWrite before [] = before ++ [.turn .record] :=
  List.append_nil _

theorem untilWrite_snoc (before between : List Move) (m : Move) :
    untilWrite before (between ++ [m]) = untilWrite before between ++ [m] :=
  (List.append_assoc _ _ _).symm

/-- What holds after the moves between the recording of a request and its write. -/
structure Unwritten (r : Relay) (before between : List Move) (q : Request) : Prop where
  dispatcher : (r.final (untilWrite before between)).dispatcher = .writing q ∨
    (r.final (untilWrite before between)).dispatcher = .ended
  pending : (r.final (untilWrite before between)).pending =
    ((r.final before).pending.insert q.transactionId q.requester (r.final before).clock).2.performAll
      ((r.final (before ++ [.turn .record])).trace between).routerOps
  /-- The entry of the id is that of this very request, and has been there since. -/
  own : ∀ e,
    (r.final (untilWrite before between)).pending.find? q.transactionId = some e →
      e = ⟨q.transactionId, q.requester, (r.final before).clock⟩ ∧
        r.HeldSince (before ++ [.turn .record]) (untilWrite before between) q
          (r.final before).clock
  forwarded : ((r.final before).trace (.turn .record :: between)).forwarded = []

theorem unwritten_start {before : List Move} {q : Request}
    (hrecorded : Trace.recorded ((r.final before).move (.turn .record)).2 = [q]) :
    r.Unwritten before [] q := by
  obtain ⟨-, hwriting, hinsert, hfind, hforwarded⟩ := recorded_of_record hrecorded
  have hafter : r.final (before ++ [.turn .record]) =
      ((r.final before).move (.turn .record)).1 := by
    rw [final_append, final_cons, final_nil]
  rw [← hafter] at hwriting hinsert hfind
  have hheld := heldSince_of_recorded hrecorded hfind
  refine ⟨?_, ?_, fun e he => ?_, ?_⟩
  · rw [untilWrite_nil]
    exact .inl hwriting
  · rw [untilWrite_nil]
    exact hinsert
  · rw [untilWrite_nil] at he ⊢
    exact ⟨Option.some.inj (he.symm.trans hfind), hheld⟩
  · rw [trace_cons, trace_nil, List.append_nil]
    exact hforwarded

theorem Unwritten.snoc {before between : List Move} {q : Request}
    (h : r.Unwritten before between q) {m : Move} (hwrite : m ≠ .turn .write)
    (honly : m.registers = false) : r.Unwritten before (between ++ [m]) q := by
  have hs := step_move (r.final (untilWrite before between)) m
  obtain ⟨hdispatcher, hpending, hrecorded, hforwarded⟩ :=
    unwritten_step hs hwrite honly h.dispatcher
  have hmove : r.final (untilWrite before between ++ [m]) =
      ((r.final (untilWrite before between)).move m).1 := by
    rw [final_append, final_cons, final_nil]
  have htrace : (r.final (before ++ [.turn .record])).trace (between ++ [m]) =
      (r.final (before ++ [.turn .record])).trace between
        ++ ((r.final (untilWrite before between)).move m).2 := by
    rw [trace_append, trace_cons, trace_nil, List.append_nil, final_untilWrite]
  refine ⟨?_, ?_, fun e he => ?_, ?_⟩
  · rw [untilWrite_snoc, hmove]
    exact hdispatcher
  · rw [untilWrite_snoc, hmove, hpending, h.pending, htrace, Trace.routerOps_append,
      PendingTable.performAll_append]
  · rw [untilWrite_snoc] at he ⊢
    cases entry_of_step hs honly (hmove ▸ he) with
    | recorded now =>
      rw [hrecorded] at now
      cases now
    | kept other found =>
      obtain ⟨rfl, hheld⟩ := h.own e found
      exact ⟨rfl, hheld.snoc other he⟩
  · have hafter : ((r.final before).move (.turn .record)).1 =
        r.final (before ++ [.turn .record]) := by
      rw [final_append, final_cons, final_nil]
    have hnone := h.forwarded
    rw [trace_cons, hafter, Trace.forwarded_append] at hnone ⊢
    rw [htrace, Trace.forwarded_append, ← List.append_assoc, hnone, hforwarded]
    rfl

theorem unwritten_of_recorded {before between : List Move} {q : Request}
    (hrecorded : Trace.recorded ((r.final before).move (.turn .record)).2 = [q])
    (hwrite : .turn .write ∉ between) (honly : OnlyDispatcherRecords between) :
    r.Unwritten before between q := by
  induction between using List.reverseRecOn with
  | nil => exact unwritten_start hrecorded
  | append_singleton between m ih =>
    obtain ⟨hearlier, hm⟩ : .turn .write ∉ between ∧ m ≠ .turn .write := by
      simpa [eq_comm] using hwrite
    exact (ih hearlier fun n hn => honly n (List.mem_append_left _ hn)).snoc hm (honly m (by simp))

/-! ## Where a request that is written comes from -/

/-- After its write, the dispatcher writes nothing. -/
theorem dispatcher_write (r : Relay) (q : Request) :
    (r.move (.turn .write)).1.dispatcher ≠ .writing q := by
  simp only [Relay.move, turn?, write?]
  split
  · split <;> exact fun h => by cases h
  · next hd => exact hd q

/-- How a dispatcher comes to write a request. -/
theorem writing_move {m : Move} {q : Request} (h : (r.move m).1.dispatcher = .writing q) :
    m ≠ .turn .write ∧ (r.dispatcher = .writing q ∨
      m = .turn .record ∧ Trace.recorded (r.move m).2 = [q]) := by
  have hm : m ≠ .turn .write := by
    rintro rfl
    exact dispatcher_write r q h
  refine ⟨hm, ?_⟩
  have hs := step_move r m
  generalize (r.move m).1 = r' at h hs
  generalize (r.move m).2 = es at hs ⊢
  cases hs with
  | recorded | displaced =>
    cases h
    exact .inr ⟨rfl, rfl⟩
  | deviceSent | deviceEnded => exact .inl (by simpa using h)
  | started | taken | refused | forwarded | unwritten | dispatcherUnused | dispatcherStopped =>
    cases h
  | _ => exact .inl h

/-- A request that the dispatcher writes has been recorded by it, and nothing has been written
since. -/
theorem exists_recording (hr : r.Fresh) {ms : List Move} {q : Request}
    (h : (r.final ms).dispatcher = .writing q) :
    ∃ before between, ms = untilWrite before between ∧
      Trace.recorded ((r.final before).move (.turn .record)).2 = [q] ∧ .turn .write ∉ between := by
  induction ms using List.reverseRecOn with
  | nil => rcases hr.dispatcher with hd | hd <;> rw [final_nil, hd] at h <;> cases h
  | append_singleton ms m ih =>
    rw [final_append, final_cons, final_nil] at h
    obtain ⟨hm, hbefore | ⟨rfl, hrecorded⟩⟩ := writing_move h
    · obtain ⟨before, between, rfl, hrecorded, hwrite⟩ := ih hbefore
      exact ⟨before, between ++ [m], (untilWrite_snoc before between m).symm, hrecorded,
        by simp [hwrite, Ne.symm hm]⟩
    · exact ⟨ms, [], (untilWrite_nil ms).symm, hrecorded, by simp⟩

/-! ## The write fails -/

/-- A write fails only while the dispatcher writes. -/
theorem failed_of_unwritten {m : Move} (h : Trace.unwritten (r.move m).2 ≠ []) :
    m = .turn .write ∧ ∃ q, r.dispatcher = .writing q ∧
      r.move (.turn .write) =
        ({ r with
            dispatcher := .idle
            pending := (r.pending.take q.transactionId).2
            deviceUp := false },
          [.forwardFailed q (.io .brokenPipe),
            .pending (r.pending.take q.transactionId).2.size]) := by
  have hs := step_move r m
  rcases hmove : r.move m with ⟨r', es⟩
  rw [hmove] at hs h
  cases hs with
  | aside _ _ _ _ _ _ quiet =>
    refine absurd (Trace.filterMap_of_kind quiet fun e he => ?_) h
    cases e <;> first | rfl | cases he
  | routed _ _ _ verdict =>
    refine absurd (Trace.filterMap_of_kind (verdict.isPassing _) fun e he => ?_) h
    cases e <;> first | rfl | cases he
  | lost _ told =>
    refine absurd (Trace.filterMap_of_kind (r.isLoss_loseDevice told) fun e he => ?_) h
    cases e <;> first | rfl | cases he
  | unwritten writing => exact ⟨rfl, _, writing, hmove⟩
  | _ => exact absurd rfl h

/-- An idle dispatcher stays idle until it asks the queue or stops. -/
theorem idle_step {r' : Relay} {m : Move} {es : Trace} (hs : Step r m r' es)
    (h : r.dispatcher = .idle) (htake : m ≠ .turn .take) (hstop : m ≠ .turn .stopDispatcher) :
    r'.dispatcher = .idle := by
  cases hs with
  | slept | taken => exact absurd rfl htake
  | dispatcherUnused | dispatcherStopped => exact absurd rfl hstop
  | recorded holding | displaced holding =>
    rw [h] at holding
    cases holding
  | started | refused | forwarded | unwritten => rfl
  | deviceSent | deviceEnded => simpa using h
  | _ => exact h

theorem idle_final (h : r.dispatcher = .idle) {ms : List Move} (htake : .turn .take ∉ ms)
    (hstop : .turn .stopDispatcher ∉ ms) : (r.final ms).dispatcher = .idle := by
  induction ms generalizing r with
  | nil => exact h
  | cons m ms ih =>
    rw [List.mem_cons, not_or] at htake hstop
    have hidle := idle_step (step_move r m) h (Ne.symm htake.1) (Ne.symm hstop.1)
    exact ih hidle htake.2 hstop.2

/-- The dispatcher records `q` by the turn after `before`, and fails to write it after the moves
`between`, in which it writes nothing. -/
structure FailsToWrite (r : Relay) (before between : List Move) (q : Request) : Prop where
  recorded : Trace.recorded ((r.final before).move (.turn .record)).2 = [q]
  waits : .turn .write ∉ between
  fails : Trace.unwritten
    ((r.final (untilWrite before between)).move (.turn .write)).2 ≠ []

/-- What a failed write leaves behind, for a process whose metrics were `m` when the run began. -/
structure Undone (r : Relay) (m : Metrics) (before between : List Move) (q : Request) : Prop where
  /-- It is this request that is given up. -/
  failed : Trace.unwritten
    ((r.final (untilWrite before between)).move (.turn .write)).2 = [q]
  absent : (r.final (untilWrite before between ++ [.turn .write])).pending.find?
    q.transactionId = none
  /-- All other ids have what the recording and the steps of the router alone would leave them. -/
  others : ∀ id, id ≠ q.transactionId →
    (r.final (untilWrite before between ++ [.turn .write])).pending.find? id =
      (((r.final before).pending.insert q.transactionId q.requester
          (r.final before).clock).2.performAll
        ((r.final (before ++ [.turn .record])).trace between).routerOps).find? id
  /-- The entry that is removed, if it is still there, is the one recorded for this request. -/
  own : ∀ e, (r.final (untilWrite before between)).pending.find? q.transactionId = some e →
    e = ⟨q.transactionId, q.requester, (r.final before).clock⟩ ∧
      r.HeldSince (before ++ [.turn .record]) (untilWrite before between) q (r.final before).clock
  forwarded :
    (m.observeAll (r.trace (untilWrite before between ++ [.turn .write]))).forwarded =
      (m.observeAll (r.trace before)).forwarded
  errors :
    (m.observeAll (r.trace (untilWrite before between ++ [.turn .write]))).downstreamErrors =
      (m.observeAll (r.trace (untilWrite before between))).downstreamErrors + 1
  /-- Until it asks the queue again or is stopped, the dispatcher is ready for the next request, and
  it takes that when it asks. -/
  goesOn : ∀ later, .turn .take ∉ later → .turn .stopDispatcher ∉ later →
    let s := r.final (untilWrite before between ++ [.turn .write] ++ later)
    s.dispatcher = .idle ∧ ∀ p next lanes, s.queue.lanes.pop? = some ((p, next), lanes) →
      (s.move (.turn .take)).2 = [.taken p next] ∧
        (s.move (.turn .take)).1.dispatcher = .holding p next ∧
        (s.move (.turn .take)).1.queue.lanes = lanes

theorem undone_of_failsToWrite (hr : r.Fresh) (m : Metrics) {before between : List Move}
    {q : Request} (h : r.FailsToWrite before between q) (honly : OnlyDispatcherRecords between) :
    r.Undone m before between q := by
  have hun := unwritten_of_recorded h.recorded h.waits honly
  obtain ⟨-, q', hwriting, hmove⟩ := failed_of_unwritten h.fails
  obtain rfl : q' = q := by
    rcases hun.dispatcher with hq | hended
    · rw [hwriting] at hq
      cases hq
      rfl
    · rw [hwriting] at hended
      cases hended
  have hlast : r.final (untilWrite before between ++ [.turn .write]) =
      ((r.final (untilWrite before between)).move (.turn .write)).1 := by
    rw [final_append, final_cons, final_nil]
  have htrace : r.trace (untilWrite before between ++ [.turn .write]) =
      r.trace (untilWrite before between)
        ++ ((r.final (untilWrite before between)).move (.turn .write)).2 := by
    rw [trace_append, trace_cons, trace_nil, List.append_nil]
  have hsince : r.trace (untilWrite before between) =
      r.trace before ++ (r.final before).trace (.turn .record :: between) := by
    rw [untilWrite, List.append_assoc, trace_append]
    rfl
  exact
    { failed := by rw [hmove]; rfl
      absent := by
        rw [hlast, hmove, PendingTable.find?_take, if_pos rfl]
      others := fun id hid => by
        rw [hlast, hmove, PendingTable.find?_take, if_neg (Ne.symm hid), hun.pending]
      own := hun.own
      forwarded := by
        rw [htrace, hsince, Metrics.observeAll_append, Metrics.observeAll_append,
          Metrics.forwarded_observeAll, Metrics.forwarded_observeAll, hun.forwarded, hmove]
        rfl
      errors := by
        rw [htrace, Metrics.observeAll_append, Metrics.downstreamErrors_observeAll, hmove]
        rfl
      goesOn := fun later htake hstop => by
        intro s
        have hidle : s.dispatcher = .idle := by
          refine (congrArg (·.dispatcher) (r.final_append _ later)).trans ?_
          exact idle_final (by rw [hlast, hmove]) htake hstop
        refine ⟨hidle, fun p next lanes hpop => ?_⟩
        have hawake := awake_final hr (untilWrite before between ++ [.turn .write] ++ later)
        rcases move_take hawake with
          ⟨p', next', lanes', w, -, hpop', hmove', hlanes, -⟩ | ⟨hempty, -⟩
        · obtain ⟨⟨rfl, rfl⟩, rfl⟩ : (p = p' ∧ next = next') ∧ lanes = lanes' := by
            simpa using hpop.symm.trans hpop'
          rw [hmove']
          exact ⟨rfl, rfl, hlanes⟩
        · rw [hempty hidle] at hpop
          cases hpop }

/-- **A failed write undoes only its own recording.** Between the recording of a request and its
write anything may happen, but that somebody else records. When the write then fails, the table has
no entry for the id of the request any more, and under every other id just what it would have if
only the recording and the steps of the router had been; the entry that is removed, if the router
has left it there, is the one recorded for this very request. The request is not counted as
forwarded, one error of the device is counted for it, and the dispatcher goes on with the next
request. And every write that fails is one of a request that was recorded so. -/
theorem failed_write_undoes_its_recording (hr : r.Fresh) (m : Metrics) :
    (∀ before between q, r.FailsToWrite before between q → OnlyDispatcherRecords between →
      r.Undone m before between q) ∧
    ∀ ms move, Trace.unwritten ((r.final ms).move move).2 ≠ [] →
      move = .turn .write ∧ ∃ before between q,
        ms = untilWrite before between ∧ r.FailsToWrite before between q := by
  refine ⟨fun before between q h honly => undone_of_failsToWrite hr m h honly,
    fun ms move hfails => ?_⟩
  obtain ⟨rfl, q, hwriting, -⟩ := failed_of_unwritten hfails
  obtain ⟨before, between, rfl, hrecorded, hwaits⟩ := exists_recording hr hwriting
  exact ⟨rfl, before, between, q, rfl, hrecorded, hwaits, hfails⟩

/-- Two clients ask under different ids; the first request is written, and the dispatcher is about
to record the second. A third waits in the queue. -/
def aboutToRecord : List Move :=
  [ .input (.serve ⟨.v4 10 0 0 9, 40000⟩), .turn (.begin 0),
    .input (.serve ⟨.v4 10 0 0 8, 40001⟩), .turn (.begin 1),
    .input (.clientSends 0 [0, 1, 0, 0, 0, 2, 1, 3]), .turn (.intake 0),
    .input (.clientSends 1 [0, 2, 0, 0, 0, 2, 1, 3, 0, 3, 0, 0, 0, 2, 1, 3]),
    .turn (.intake 1), .turn (.intake 1), .input .startDispatcher,
    .turn .take, .turn .record, .turn .write, .turn .take ]

/-- The device answers under both ids before it breaks. -/
def answeredEarly : List Move :=
  [ .input (.deviceSends [0, 2, 0, 0, 0, 2, 1, 3, 0, 1, 0, 0, 0, 2, 1, 4]), .turn .route,
    .input .deviceBreaks ]

/-- The second request. -/
def answeredUnwritten : Request :=
  ⟨⟨1, ⟨.v4 10 0 0 8, 40001⟩⟩, ⟨[0, 2, 0, 0, 0, 2, 1, 3], ⟨2, 0, 2, 1⟩, rfl, rfl⟩⟩

/-- The answer to the second request has already been handed over when its write fails. The first is
still in flight, and the dispatcher takes the third. -/
theorem undone_of_answeredEarly :
    (ofSettings {}).Fresh ∧ OnlyDispatcherRecords answeredEarly ∧
      (ofSettings {}).FailsToWrite aboutToRecord answeredEarly answeredUnwritten ∧
      (ofSettings {}).Undone {} aboutToRecord answeredEarly answeredUnwritten ∧
      ((ofSettings {}).final (untilWrite aboutToRecord answeredEarly ++ [.turn .write])).pending.ids =
        [1] := by
  have hr := fresh_ofSettings {}
  have honly : OnlyDispatcherRecords answeredEarly := by decide
  have hfails : (ofSettings {}).FailsToWrite aboutToRecord answeredEarly answeredUnwritten :=
    ⟨by decide +kernel, by decide, by decide +kernel⟩
  exact ⟨hr, honly, hfails,
    (failed_write_undoes_its_recording hr {}).1 _ _ _ hfails honly, by decide +kernel⟩

end Relay

end ModbusRelay
