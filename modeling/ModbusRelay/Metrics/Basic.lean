import ModbusRelay.Relay.Event

/-!
The metrics: counters that only grow and gauges that are set. They are a summary of the events so
far, `Metrics.ofEvents`, and outlive any one relay of the process.
-/

namespace ModbusRelay

/-- The values of all metrics of a process. -/
structure Metrics where
  clientsConnected : Int := 0
  clientErrors : Nat := 0
  queuedHigh : Nat := 0
  queuedNormal : Nat := 0
  forwarded : Nat := 0
  duplicateRejections : Nat := 0
  pending : Int := 0
  routed : Nat := 0
  misses : Nat := 0
  downstreamErrors : Nat := 0
  running : Int := 0
  deriving DecidableEq, Repr

namespace Metrics

/-- The metrics after one more event. -/
def observe (m : Metrics) : RelayEvent → Metrics
  | .started .. => { m with running := 1 }
  | .stopped .. => { m with running := 0 }
  | .connected .. => { m with clientsConnected := m.clientsConnected + 1 }
  | .disconnected .. => { m with clientsConnected := m.clientsConnected - 1 }
  | .received .high _ => { m with queuedHigh := m.queuedHigh + 1 }
  | .received .normal _ => { m with queuedNormal := m.queuedNormal + 1 }
  | .readFailed .. | .writeFailed .. => { m with clientErrors := m.clientErrors + 1 }
  | .refused .. => { m with duplicateRejections := m.duplicateRejections + 1 }
  | .forwarded .. => { m with forwarded := m.forwarded + 1 }
  | .forwardFailed .. | .deviceLost => { m with downstreamErrors := m.downstreamErrors + 1 }
  | .pending count => { m with pending := count }
  | .routed .. => { m with routed := m.routed + 1 }
  | .missed .. => { m with misses := m.misses + 1 }
  | .stopping .. | .discarded .. | .acceptFailed .. | .clientEnded .. | .sessionStopping ..
  | .delivered .. | .enqueued .. | .taken .. | .recorded .. | .displaced .. | .forwarding ..
  | .recipientGone .. | .recipientFull .. | .deviceClosed | .deviceReadFailed .. | .abandoned ..
  | .routerStopped | .dispatcherStopped | .acceptorStopped => m

/-- The metrics after more events. -/
def observeAll (m : Metrics) (events : List RelayEvent) : Metrics := events.foldl observe m

/-- The metrics of a process in which exactly these events have happened. -/
def ofEvents (events : List RelayEvent) : Metrics := observeAll {} events

@[simp]
theorem observeAll_append (m : Metrics) (es fs : List RelayEvent) :
    m.observeAll (es ++ fs) = (m.observeAll es).observeAll fs :=
  List.foldl_append

end Metrics

end ModbusRelay
