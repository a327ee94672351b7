import ModbusRelay.Proofs.Host.Lifecycle
import ModbusRelay.Proofs.Relay.Ended

/-!
An instance that is dropped instead of shut down.

Dropping an instance cancels its relay and then ends the workers where they stand; in between they
may still make some moves (`dropBy`). For whoever is connected that is as good as a shutdown: the
listener and all connections are closed, and nothing is delivered any more (`Severed`). But workers
that are ended lower no gauge, and nobody does it for them. So the gauges stay as the workers left
them, and the process goes on to tell that it is ready (`dropping_leaves_the_gauges`).
-/

namespace ModbusRelay

namespace Relay

/-- What happens in a relay neither starts nor stops an instance. -/
theorem running_final (r : Relay) (ms : List Move) (metrics : Metrics) :
    (metrics.observeAll (r.trace ms)).running = metrics.running := by
  induction ms generalizing r metrics with
  | nil => rfl
  | cons m ms ih =>
    rw [trace_cons, Metrics.observeAll_append, ih, Metrics.running_observeAll (r.within_move m)]

end Relay

/-- The gauges: instances that run, clients that are connected, requests in flight. -/
def Metrics.gauges (m : Metrics) : Int × Int × Int := (m.running, m.clientsConnected, m.pending)

namespace Instance

/-- The instance dropped after these moves since its cancellation. Only the moves tell of
themselves. -/
def dropBy (i : Instance) (ns : List Move) : Instance × List RelayEvent :=
  let (relay, events) := i.relay.run (.input .cancel :: ns)
  ({ i with relay }.abort, events)

variable (i : Instance)

/-- Every connection is closed. -/
theorem phaseOf_abort (c : Nat) :
    i.abort.relay.phaseOf c = none ∨ i.abort.relay.phaseOf c = some .ended := by
  unfold abort Relay.phaseOf Relay.client?
  rw [List.getElem?_map]
  rcases i.relay.clients[c]? with _ | x
  · exact .inl rfl
  · cases hk : x.connection with
    | none => exact .inl (by simp [hk, Client.phase?])
    | some k => exact .inr (by simp [hk, Client.phase?, Client.hangUp])

theorem workersEnded_abort : i.abort.relay.WorkersEnded where
  dispatcher := rfl
  router := rfl
  acceptor := rfl
  sessions c := by rcases i.phaseOf_abort c with h | h <;> simp [h]

theorem severed_abort (metrics : Metrics) : Relay.Severed metrics i.abort.relay :=
  i.workersEnded_abort.severed
    (fun c => by rcases i.phaseOf_abort c with h | h <;> simp [h]) metrics

end Instance

namespace Relay

variable {r : Relay}

/-- The gauges of a run that began with nobody connected and nothing in flight. -/
theorem gauges_final (hr : r.Fresh) {ms : List Move} (honly : OnlyDispatcherRecords ms)
    {m : Metrics} (hnobody : m.clientsConnected = 0) (hnothing : m.pending = 0) :
    (m.observeAll (r.trace ms)).gauges =
      (m.running, ((r.final ms).serving.length : Int), ((r.final ms).pending.size : Int)) := by
  rw [Metrics.gauges, running_final, clientsConnected_final hr.clients, hnobody, Int.zero_add,
    pending_observeAll hr honly hnothing]

/-- **Dropping leaves the gauges.** Take an instance in any state that its relay can come to, in a
process in which it is the only one, and drop it, whatever its workers still do until they are
ended. As after a shutdown, the listener and all connections are closed, and no later move delivers
a byte or changes a metric. But where a shutdown leaves all gauges at zero and the process not
ready, the gauges stay at the sessions that were serving and the requests that were in flight, and
an instance counts as running; so the process goes on to tell that it is ready. -/
theorem dropping_leaves_the_gauges (hr : r.Fresh) {ms : List Move}
    (honly : OnlyDispatcherRecords ms) {i : Instance} (hi : i.relay = r.final ms) {m : Metrics}
    (hone : m.running = 1) (hnobody : m.clientsConnected = 0) (hnothing : m.pending = 0) :
    (∀ ns, OnlyDispatcherRecords ns →
      let s := i.relay.final (.input .cancel :: ns)
      let m' := m.observeAll (r.trace ms ++ (i.dropBy ns).2)
      Severed m' (i.dropBy ns).1.relay ∧
        m'.gauges = (1, (s.serving.length : Int), (s.pending.size : Int)) ∧
        (m'.page "/ready").code = 200) ∧
    (∀ ns, (i.relay.final (.input .cancel :: ns)).WorkersEnded →
      let m' := m.observeAll (r.trace ms ++ (i.shutdownBy ns).2)
      Severed m' (i.shutdownBy ns).1.relay ∧ m'.gauges = (0, 0, 0) ∧
        (m'.page "/ready").code = 503) ∧
    ∀ k : Handle, k.held = i → k.isOver = false →
      k.abort = ⟨(i.dropBy []).1, true⟩ ∧ k.abort.abort = k.abort ∧
        k.abort.stop = (k.abort, []) := by
  refine ⟨fun ns hns => ?_, fun ns hended => ?_, ?_⟩
  · intro s m'
    have hgauges : m'.gauges = (1, (s.serving.length : Int), (s.pending.size : Int)) := by
      have h := gauges_final hr (honly.cancel hns) hnobody hnothing
      rwa [trace_append, final_append, ← hi, hone] at h
    have hrunning : m'.running = 1 := congrArg Prod.fst hgauges
    exact ⟨Instance.severed_abort _ m', hgauges, by rw [Metrics.code_ready, hrunning]; rfl⟩
  · intro m'
    have hleft : NothingLeft m' (i.shutdownBy ns).1.relay := nothingLeft hr hi hended hnobody
    have hgauges : m'.gauges = (0, 0, 0) := by
      rw [Metrics.gauges, hleft.running, hleft.clientsConnected, hleft.pending]
    exact ⟨hleft.severed, hgauges, by rw [Metrics.code_ready, hleft.running]; rfl⟩
  · rintro k rfl hover
    have habort : k.abort = ⟨k.held.abort, true⟩ := if_neg (by simp [hover])
    rw [habort]
    exact ⟨rfl, rfl, rfl⟩

/-- Two sessions serve, and a request of one of them is in flight. -/
def dropped : List Move :=
  [ .input (.dial ⟨.v4 10 0 0 9, 40000⟩), .input (.dial ⟨.v4 10 0 0 8, 40001⟩), .turn .accept,
    .turn .accept, .turn (.begin 0), .turn (.begin 1) ]
    ++ forwardOne 0 [0, 1, 0, 0, 0, 2, 1, 3]

/-- One of them notices that it has been cancelled before the instance is dropped, and the other
stays in the gauge together with the request. -/
theorem gauges_of_dropped :
    let r := Instance.freshRelay {}
    let i : Instance := ⟨⟨.v4 0 0 0 0, 5020⟩, ⟨.v4 127 0 0 1, 502⟩, r.final dropped⟩
    let m := Metrics.ofEvents [i.startedEvent {}]
    let m' := m.observeAll (r.trace dropped ++ (i.dropBy [.turn (.stopSession 0)]).2)
    r.Fresh ∧ OnlyDispatcherRecords dropped ∧
      OnlyDispatcherRecords [Move.turn (.stopSession 0)] ∧
      Severed m' (i.dropBy [.turn (.stopSession 0)]).1.relay ∧ m'.gauges = (1, 1, 1) ∧
      (m'.page "/ready").code = 200 := by
  intro r i m m'
  have hr : r.Fresh := fresh_freshRelay {}
  have honly : OnlyDispatcherRecords dropped := by decide
  have hstops : OnlyDispatcherRecords [Move.turn (.stopSession 0)] := by decide
  have hi : i.relay = r.final dropped := by dsimp only [i]
  have hone : m.running = 1 := rfl
  have hnobody : m.clientsConnected = 0 := rfl
  have hnothing : m.pending = 0 := rfl
  obtain ⟨hdrop, -⟩ := dropping_leaves_the_gauges hr honly hi hone hnobody hnothing
  obtain ⟨hsevered, hgauges, hready⟩ := hdrop _ hstops
  refine ⟨hr, honly, hstops, hsevered, hgauges.trans ?_, hready⟩
  decide +kernel

/-- So an instance that is dropped does not end as one that is shut down: not even the gauge of
those that run comes down, and the process stays ready. -/
theorem dropped_instance_counts_as_running :
    ¬∀ (s : Settings) (i : Instance) (ms : List Move),
      i.relay = (Instance.freshRelay s).final ms →
        let m := Metrics.ofEvents (i.startedEvent s :: (Instance.freshRelay s).trace ms)
        let dropped := m.observeAll (i.dropBy []).2
        let stopped := m.observeAll i.shutdown.2
        dropped.gauges = stopped.gauges ∧ (dropped.page "/ready").code = 503 := by
  intro h
  obtain ⟨-, hready⟩ := h {} ⟨⟨.v4 0 0 0 0, 5020⟩, ⟨.v4 127 0 0 1, 502⟩, Instance.freshRelay {}⟩ []
    rfl
  revert hready
  decide +kernel

end Relay

end ModbusRelay
