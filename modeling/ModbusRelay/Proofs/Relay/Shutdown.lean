import ModbusRelay.Proofs.Metrics.LeftOut
import ModbusRelay.Proofs.Relay.Settle

/-!
The ways in which a shutdown can go.

After a cancellation the workers notice it in any order, and until they have they may go on with
their work, while the world goes on with its own. `shutdownBy ns` is the shutdown in which `ns` is
all that happens before what is left over is cleared; the shutdown of an instance is one of these
(`shutdown_eq_shutdownBy`). Whichever way it goes, the metrics afterwards are those of the run but
for two gauges, which are zero (`observeAll_shutdownBy`).
-/

namespace ModbusRelay

namespace Instance

/-- The shutdown during which these moves are made. -/
def shutdownBy (i : Instance) (ns : List Move) : Instance × List RelayEvent :=
  let (stopped, events) := i.relay.run (.input .cancel :: ns)
  let (cleared, later) := clearRelay stopped
  ({ i with relay := cleared },
    [.stopping i.listen] ++ events ++ later ++ [.stopped i.listen])

variable (i : Instance)

/-- The relay that a shutdown clears up. -/
theorem relay_shutdownBy (ns : List Move) : (i.shutdownBy ns).1.relay =
    (clearRelay (i.relay.final (.input .cancel :: ns))).1 := rfl

/-- The workers stop by taking turns, and the device keeps silent. -/
theorem shutdown_eq_shutdownBy :
    ∃ ns, (∀ m ∈ ns, m.settles = true) ∧
      i.relay.after .cancel = i.relay.run (.input .cancel :: ns) ∧
      i.shutdown = i.shutdownBy ns := by
  obtain ⟨ns, hns, hrun⟩ := i.relay.after_eq_run .cancel
  refine ⟨ns, hns, hrun, ?_⟩
  unfold shutdown shutdownBy
  rw [hrun]

/-- Clearing up tells how many requests were dropped, and that nothing is in flight. -/
theorem observeAll_clearRelay (m : Metrics) (r : Relay) :
    m.observeAll (clearRelay r).2 = { m with pending := 0 } := by
  unfold clearRelay
  dsimp only
  split <;> rfl

theorem observeAll_shutdownBy (m : Metrics) (ns : List Move) :
    m.observeAll (i.shutdownBy ns).2 =
      { m.observeAll (i.relay.trace (.input .cancel :: ns)) with pending := 0, running := 0 } := by
  have hevents : (i.shutdownBy ns).2 = [.stopping i.listen]
      ++ i.relay.trace (.input .cancel :: ns)
      ++ (clearRelay (i.relay.final (.input .cancel :: ns))).2 ++ [.stopped i.listen] := rfl
  rw [hevents, Metrics.observeAll_append, Metrics.observeAll_append, Metrics.observeAll_append,
    observeAll_clearRelay]
  rfl

end Instance

end ModbusRelay
