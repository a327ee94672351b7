import ModbusRelay.Proofs.Metrics.Counters
import ModbusRelay.Proofs.Relay.Sessions
import ModbusRelay.Proofs.Relay.Shutdown

/-!
The gauges show the state of the relay.

The gauge of connected clients goes up and down with the events of sessions
(`clientsConnected_observeAll`), and these are told just when a session begins or ends
(`Relay.told_of_move`); so it shows how many sessions serve, and the counter of errors how many have
failed. The gauge of requests in flight is set each time that the table changes. A shutdown keeps
both true, however it goes (`gauges_tell_the_truth`).
-/

namespace ModbusRelay

namespace Metrics

/-- Each beginning of a session counts up and each end counts down. -/
theorem clientsConnected_observeAll (m : Metrics) (es : Trace) :
    (m.observeAll es).clientsConnected = m.clientsConnected
      + (es.filterMap RelayEvent.connected?).length
      - (es.filterMap RelayEvent.disconnected?).length := by
  induction es generalizing m with
  | nil => simp [observeAll]
  | cons e es ih =>
    have hstep : m.observeAll (e :: es) = (m.observe e).observeAll es := rfl
    rw [hstep, ih]
    cases e with
    | received p q => cases p <;> rfl
    | connected who p =>
      simp only [observe, RelayEvent.connected?, RelayEvent.disconnected?, List.filterMap_cons,
        List.length_cons]
      omega
    | disconnected who =>
      simp only [observe, RelayEvent.connected?, RelayEvent.disconnected?, List.filterMap_cons,
        List.length_cons]
      omega
    | _ => rfl

theorem clientErrors_observeAll (m : Metrics) (es : Trace) :
    (m.observeAll es).clientErrors =
      m.clientErrors + (es.filterMap RelayEvent.sessionFailed?).length := by
  refine counter_observeAll clientErrors (fun m e => ?_) m es
  cases e with
  | received p q => cases p <;> rfl
  | _ => rfl

theorem clientErrors_ofEvents (es : Trace) :
    (ofEvents es).clientErrors = (es.filterMap RelayEvent.sessionFailed?).length :=
  (clientErrors_observeAll {} es).trans (Nat.zero_add _)

end Metrics

namespace Relay

/-- The gauge of connected clients goes up by the number of sessions that serve. -/
theorem clientsConnected_final {r : Relay} (hr : r.clients = []) (ms : List Move) (m : Metrics) :
    (m.observeAll (r.trace ms)).clientsConnected =
      m.clientsConnected + (r.final ms).serving.length := by
  have hbalance := (sessions_balance hr ms).length_eq
  have hends := congrArg List.length (r.yields_ends ms)
  rw [List.length_append, List.length_map] at hbalance
  rw [List.length_map] at hends
  rw [Metrics.clientsConnected_observeAll, ← yields_begins, hbalance, ← hends]
  omega

/-- The metrics agree with the relay, with the sessions that have begun and with those that have
ended. -/
structure GaugesAgree (m : Metrics) (r : Relay) (begun : List Nat)
    (ended : List (Nat × SessionEnd)) : Prop where
  pending : m.pending = r.pending.size
  /-- The sessions that have begun serve or have ended. -/
  sessions : begun.Perm (r.serving ++ ended.map (·.1))
  /-- None begins twice, and so none ends twice. -/
  once : begun.Nodup
  connected : m.clientsConnected = r.serving.length
  difference : m.clientsConnected = begun.length - ended.length
  nonneg : 0 ≤ m.clientsConnected
  errors : m.clientErrors = ended.countP (·.2.failed)
  /-- A session adds one error at most. -/
  oneError : ∀ c, ended.countP (fun x => x.1 = c ∧ x.2.failed = true) ≤ 1

variable {r : Relay}

/-- Two gauges and one counter are all that is to be known of the metrics. -/
theorem gaugesAgree_of {m : Metrics} {s : Relay} {begun : List Nat}
    {ended : List (Nat × SessionEnd)} (hpending : m.pending = s.pending.size)
    (hsessions : begun.Perm (s.serving ++ ended.map (·.1))) (honce : begun.Nodup)
    (hconnected : m.clientsConnected = s.serving.length)
    (herrors : m.clientErrors = (ended.filterMap SessionEnd.failed?).length) :
    GaugesAgree m s begun ended := by
  have hlength := hsessions.length_eq
  rw [List.length_append, List.length_map] at hlength
  have hended : (ended.map (·.1)).Nodup :=
    (List.nodup_append.mp (hsessions.nodup_iff.mp honce)).2.1
  refine ⟨hpending, hsessions, honce, hconnected, by omega, by omega, ?_, fun c => ?_⟩
  · rw [herrors, List.length_filterMap_eq_countP]
    exact List.countP_congr fun x _ => by simp [SessionEnd.failed?]
  · calc ended.countP (fun x => x.1 = c ∧ x.2.failed = true)
        ≤ ended.countP (fun x => x.1 = c) :=
          List.countP_mono_left fun x _ h => by simp_all
      _ = (ended.map (·.1)).count c := by
          rw [List.count, List.countP_map]
          exact List.countP_congr fun x _ => by simp
      _ ≤ 1 := List.nodup_iff_count.mp hended c

theorem gaugesAgree_final (hr : r.Fresh) {ms : List Move} (honly : OnlyDispatcherRecords ms) :
    GaugesAgree (Metrics.ofEvents (r.trace ms)) (r.final ms) (r.yields begins ms)
      (r.yields ends ms) := by
  refine gaugesAgree_of (pending_ofEvents hr honly) (sessions_balance hr.clients ms)
    (r.nodup_begins ms).1 ((clientsConnected_final hr.clients ms {}).trans (Int.zero_add _)) ?_
  rw [Metrics.clientErrors_ofEvents, yields_failed]

/-- **The gauges tell the truth.** In every run in which only the dispatcher records, the gauge of
requests in flight is the size of the table, the gauge of connected clients is the number of
sessions that have begun and not ended, and the counter of client errors is the number of sessions
that have ended with a failure to read or to write. The same holds after a shutdown, whatever has
happened between the cancellation and the clearing up. -/
theorem gauges_tell_the_truth (hr : r.Fresh) {ms : List Move}
    (honly : OnlyDispatcherRecords ms) :
    GaugesAgree (Metrics.ofEvents (r.trace ms)) (r.final ms) (r.yields begins ms)
      (r.yields ends ms) ∧
    ∀ i : Instance, i.relay = r.final ms →
      (∀ ns, OnlyDispatcherRecords ns →
        GaugesAgree (Metrics.ofEvents (r.trace ms ++ (i.shutdownBy ns).2))
          (i.shutdownBy ns).1.relay (r.yields begins (ms ++ .input .cancel :: ns))
          (r.yields ends (ms ++ .input .cancel :: ns))) ∧
      ∃ ns, OnlyDispatcherRecords ns ∧ i.shutdown = i.shutdownBy ns := by
  refine ⟨gaugesAgree_final hr honly, fun i hi => ⟨fun ns hns => ?_, ?_⟩⟩
  · have h := gaugesAgree_final hr (honly.cancel hns)
    rw [trace_append, final_append, ← hi, Metrics.ofEvents, Metrics.observeAll_append] at h
    rw [Metrics.ofEvents, Metrics.observeAll_append, Instance.observeAll_shutdownBy,
      Instance.relay_shutdownBy]
    -- Clearing up takes no session away, and the table that it leaves is empty.
    exact { h with pending := rfl }
  · obtain ⟨ns, hns, -, hshutdown⟩ := i.shutdown_eq_shutdownBy
    exact ⟨ns, onlyDispatcherRecords_of_settles hns, hshutdown⟩

/-- A request of a client is read, taken, recorded and written. -/
def forwardOne (c : Nat) (frame : List UInt8) : List Move :=
  [ .input (.clientSends c frame), .turn (.intake c), .turn .take, .turn .record, .turn .write ]

/-- Seven sessions. One ends between two frames, one sends what is no frame, one half a frame, one
cannot be written to, and one not be read; one is stopped with a request in flight, after a second
one of the same id was refused, and one goes on. -/
def everyEnd : List Move :=
  (List.range 7).map (fun c => .input (.serve ⟨.v4 10 0 0 9, 40000 + c.toUInt16⟩))
    ++ .input .startDispatcher :: (List.range 7).map (fun c => .turn (.begin c))
    ++ [ .input (.clientEnds 0 .closed), .turn (.intake 0),
      .input (.clientSends 1 [0, 1, 0, 0, 0, 0, 1]), .turn (.intake 1),
      .input (.clientSends 2 [0, 1, 0, 0, 0]), .input (.clientEnds 2 .closed), .turn (.intake 2),
      .input (.clientEnds 5 (.broken .connectionReset)), .turn (.intake 5) ]
    ++ forwardOne 3 [0, 3, 0, 0, 0, 2, 1, 3]
    ++ [ .input (.deviceSends [0, 3, 0, 0, 0, 2, 1, 3]), .turn .route, .turn (.fetch 3),
      .input (.clientBreaks 3), .turn (.deliver 3) ]
    ++ forwardOne 4 [0, 4, 0, 0, 0, 2, 1, 3] ++ forwardOne 4 [0, 4, 0, 0, 0, 2, 1, 3]
    ++ [.input .cancel, .turn (.stopSession 4)]

/-- One session is left of seven, four have failed, and one request is in flight until a
shutdown. -/
theorem gauges_of_everyEnd :
    let m := Metrics.ofEvents ((ofSettings {}).trace everyEnd)
    let i : Instance :=
      ⟨⟨.v4 0 0 0 0, 5020⟩, ⟨.v4 127 0 0 1, 502⟩, (ofSettings {}).final everyEnd⟩
    let m' := Metrics.ofEvents ((ofSettings {}).trace everyEnd ++ (i.shutdownBy
      [.turn .stopRouter, .turn (.stopSession 6), .turn .stopDispatcher]).2)
    (ofSettings {}).Fresh ∧ OnlyDispatcherRecords everyEnd ∧
      m.pending = 1 ∧ m.clientsConnected = 1 ∧ m.clientErrors = 4 ∧
      m'.pending = 0 ∧ m'.clientsConnected = 0 ∧ m'.clientErrors = 4 := by
  intro m i m'
  have hr : (ofSettings {}).Fresh := fresh_ofSettings {}
  have honly : OnlyDispatcherRecords everyEnd := by decide +kernel
  have hshut : OnlyDispatcherRecords
      [.turn .stopRouter, .turn (.stopSession 6), .turn .stopDispatcher] := by decide
  obtain ⟨hrun, hshutdown⟩ := gauges_tell_the_truth hr honly
  have hend := (hshutdown i (by simp only [i])).1 _ hshut
  refine ⟨hr, honly, hrun.pending.trans ?_, hrun.connected.trans ?_, hrun.errors.trans ?_,
    hend.pending.trans rfl, hend.connected.trans ?_, hend.errors.trans ?_⟩
  · decide +kernel
  · decide +kernel
  · decide +kernel
  · decide +kernel
  · decide +kernel

end Relay

end ModbusRelay
