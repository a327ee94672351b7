import ModbusRelay.Proofs.Metrics.Gauges
import ModbusRelay.Proofs.Relay.Besides
import ModbusRelay.Proofs.Relay.Rest

/-!
A shutdown leaves nothing behind.

Once a relay has been cancelled, every worker that has not ended can take a turn, so when no turn can
be taken all of them have ended (`workersEnded_of_quiet`); and that comes about, for without anything
new from outside the turns run out (`length_of_taking`). A shutdown waits for it and clears the queue
and the table. No connection is open then, those that the listener had not accepted included
(`none_waiting`), and nothing that happens later wakes a worker up (`WorkersEnded.later`).
-/

namespace ModbusRelay

/-- Does a session come in past the listener? -/
def Move.serves : Move → Bool
  | .input (.serve _) => true
  | _ => false

namespace Relay

/-- Dispatcher, router, acceptor and all sessions have ended. -/
structure WorkersEnded (r : Relay) : Prop where
  dispatcher : r.dispatcher = .ended
  router : r.routing = false
  acceptor : r.acceptor = .closed
  sessions : ∀ c, r.phaseOf c ≠ some .accepted ∧ r.phaseOf c ≠ some .serving

/-- All bytes that a client has got. -/
def outputOf (r : Relay) (c : Nat) : List UInt8 := ((r.client? c).map Client.output).getD []

variable {r : Relay}

/-! ## When all workers have ended -/

theorem clientIn?_eq_none {c : Nat} {phase : SessionPhase} (h : r.phaseOf c ≠ some phase) :
    r.clientIn? c phase = none := by
  unfold clientIn?
  unfold phaseOf at h
  cases hx : r.client? c with
  | none => rfl
  | some x =>
    rw [hx] at h
    exact if_neg h

theorem phaseOf_ne_of_clientIn? {c : Nat} {phase : SessionPhase} (h : r.clientIn? c phase = none) :
    r.phaseOf c ≠ some phase := by
  unfold clientIn? at h
  unfold phaseOf
  cases hx : r.client? c with
  | none => simp
  | some x =>
    intro hphase
    rw [hx] at h
    simp only [show x.phase? = some phase from hphase, if_true] at h
    cases h

theorem freeSession?_eq_none {c : Nat} (h : r.clientIn? c .serving = none) :
    r.freeSession? c = none := by
  simp [freeSession?, h]

theorem WorkersEnded.quiet (h : r.WorkersEnded) : r.Quiet := by
  intro t
  have haccepted (c : Nat) := clientIn?_eq_none (h.sessions c).1
  have hserving (c : Nat) := clientIn?_eq_none (h.sessions c).2
  cases t with
  | route => simp [turn?, route?, h.router]
  | take => simp [turn?, take?, h.dispatcher]
  | record => simp [turn?, record?, h.dispatcher]
  | write => simp [turn?, write?, h.dispatcher]
  | begin c => simp [turn?, begin?, haccepted]
  | intake c => simp [turn?, intake?, freeSession?_eq_none (hserving c)]
  | fetch c => simp [turn?, fetch?, freeSession?_eq_none (hserving c)]
  | deliver c => simp [turn?, deliver?, hserving]
  | accept => simp [turn?, accept?, h.acceptor]
  | resume => simp [turn?, resume?, h.acceptor]
  | join => simp [turn?, join?, h.acceptor]
  | stopRouter => simp [turn?, stopRouter?, h.router]
  | stopDispatcher => simp [turn?, stopDispatcher?, h.dispatcher]
  | stopAcceptor => simp [turn?, stopAcceptor?, h.acceptor]
  | stopSession c => simp [turn?, stopSession?, hserving]

/-- In a relay that has been cancelled every session can stop, and one that has not begun can
begin. -/
theorem sessions_of_quiet (hcancelled : r.cancelled = true) (hquiet : r.Quiet) (c : Nat) :
    r.phaseOf c ≠ some .accepted ∧ r.phaseOf c ≠ some .serving := by
  have hbegin := hquiet (.begin c)
  have hstop := hquiet (.stopSession c)
  simp only [turn?, begin?, stopSession?, hcancelled, if_true, Option.bind_eq_bind,
    Option.bind_eq_none_iff] at hbegin hstop
  constructor
  · refine phaseOf_ne_of_clientIn? ?_
    cases h : r.clientIn? c .accepted with
    | none => rfl
    | some found => exact absurd (hbegin found h) (by simp)
  · refine phaseOf_ne_of_clientIn? ?_
    cases h : r.clientIn? c .serving with
    | none => rfl
    | some found =>
      obtain ⟨who, x⟩ := found
      obtain ⟨-, serving, -⟩ := clientIn?_eq_some h
      obtain ⟨k, hk, -⟩ := Option.map_eq_some_iff.mp serving
      exact absurd (hstop _ h k hk) (by simp)

/-- In a relay that has been cancelled whoever has not ended can take a turn. -/
theorem workersEnded_of_quiet (hcancelled : r.cancelled = true) (hquiet : r.Quiet) :
    r.WorkersEnded where
  dispatcher := by
    have hrecord := hquiet .record
    have hstop := hquiet .stopDispatcher
    simp only [turn?, record?, stopDispatcher?, hcancelled, if_true] at hrecord hstop
    cases hd : r.dispatcher <;> simp [hd] at hrecord hstop
    rfl
  router := by
    have hstop := hquiet .stopRouter
    simpa [turn?, stopRouter?, hcancelled] using hstop
  acceptor := by
    have hresume := hquiet .resume
    have hstop := hquiet .stopAcceptor
    have hjoin := hquiet .join
    -- No session is left for the acceptor to wait for.
    have hsessions : ∀ x ∈ r.clients, x.phase? ≠ some .accepted ∧ x.phase? ≠ some .serving := by
      intro x hx
      obtain ⟨c, hc⟩ := List.mem_iff_getElem?.mp hx
      rw [← phaseOf_of_client? hc]
      exact sessions_of_quiet hcancelled hquiet c
    simp only [turn?, resume?, stopAcceptor?, hcancelled, true_and] at hresume hstop
    cases ha : r.acceptor with
    | closed => rfl
    | listening => simp [ha] at hstop
    | resting => simp [ha] at hresume
    | joining =>
      rw [turn?, join?, if_pos ⟨ha, hsessions⟩] at hjoin
      cases hjoin
  sessions := sessions_of_quiet hcancelled hquiet

/-! ## Without a listener nobody waits for it -/

/-- A listener that is closed was closed before, or turns away all who wait for it. -/
theorem Turned.closed {t : Turn} {r' : Relay} {es : List RelayEvent} (h : Turned r t r' es)
    (hclosed : r'.acceptor.hasListener = false) :
    r.acceptor.hasListener = false ∨ ∀ c, r'.phaseOf c ≠ some .waiting := by
  cases h with
  | offered =>
    obtain ⟨clients, e, hoffer, -⟩ := offer_cases (r.withResponse _ _) _ _
    rw [hoffer] at hclosed
    exact .inl hclosed
  | acceptFailed | rested => cases hclosed
  | joined joining => exact .inl (by rw [joining]; rfl)
  | acceptorStopped =>
    right
    intro c
    unfold phaseOf client?
    rw [List.getElem?_map]
    cases r.clients[c]? with
    | none => simp
    | some x =>
      simp only [Option.map_some, Option.bind_some]
      split
      · exact x.phase?_hangUp
      · assumption
  | _ => exact .inl hclosed

theorem none_waiting_move (h : r.acceptor.hasListener = false → ∀ c, r.phaseOf c ≠ some .waiting)
    (m : Move) (hclosed : (r.move m).1.acceptor.hasListener = false) (c : Nat) :
    (r.move m).1.phaseOf c ≠ some .waiting := by
  have hstep := phaseStep r m c
  -- If the listener was closed before, nobody waited, and nobody has come to wait.
  have hbefore (hr : r.acceptor.hasListener = false) : (r.move m).1.phaseOf c ≠ some .waiting := by
    have hnot := h hr c
    intro hwaiting
    rw [hwaiting] at hstep
    generalize r.phaseOf c = before at hstep hnot
    cases hstep with
    | same => exact hnot rfl
    | dialled listener =>
      rw [hr] at listener
      cases listener
  cases m with
  | input i =>
    rw [show (r.move (.input i)).1.acceptor = r.acceptor from (kept_apply r i).1] at hclosed
    exact hbefore hclosed
  | turn t =>
    rcases r.turned_or_idle t with h | h
    · rcases h.closed hclosed with hr | hnone
      · exact hbefore hr
      · exact hnone c
    · rw [h] at hclosed
      exact hbefore hclosed

theorem none_waiting (hr : r.clients = []) (ms : List Move)
    (hclosed : (r.final ms).acceptor.hasListener = false) (c : Nat) :
    (r.final ms).phaseOf c ≠ some .waiting := by
  induction ms using List.reverseRecOn generalizing c with
  | nil => simp [phaseOf, client?, hr]
  | append_singleton ms m ih =>
    rw [final_append, final_cons, final_nil] at hclosed ⊢
    exact none_waiting_move ih m hclosed c

/-! ## After the end -/

theorem outputOf_withClient {c : Nat} {change : Client → Client}
    (h : ∀ x, (change x).output = x.output) (d : Nat) :
    (r.withClient c change).outputOf d = r.outputOf d := by
  unfold outputOf
  rw [client?_withClient]
  split
  · rw [Option.map_map]
    congr 2
    funext x
    exact h x
  · rfl

theorem outputOf_addClient (r : Relay) (peer : SocketAddress) {k : Option Connection}
    (hk : (k.map (·.output)).getD [] = []) (c : Nat) :
    (r.addClient peer k).2.outputOf c = r.outputOf c := by
  unfold outputOf
  rcases r.client?_addClient peer k c with h | ⟨hnone, hnew⟩
  · rw [h]
  · rw [hnone, hnew]
    exact hk

/-- Only turns deliver anything. -/
theorem Reached.outputOf {i : Input} {r' : Relay} (h : Reached r i r') (c : Nat) :
    r'.outputOf c = r.outputOf c := by
  cases h with
  | nobody same => rw [Relay.outputOf, Relay.outputOf, client?, client?, same]
  | client _ output => exact outputOf_withClient output c
  | attached | served | dialled => exact outputOf_addClient r _ rfl c

/-- What the world does starts no worker again, unless it brings a session in. -/
theorem WorkersEnded.apply (h : r.WorkersEnded) {i : Input} (hi : (Move.input i).serves = false) :
    (r.apply i).1.WorkersEnded ∧ (r.apply i).1.device.output = r.device.output := by
  have hsessions (c : Nat) : (r.apply i).1.phaseOf c ≠ some .accepted ∧
      (r.apply i).1.phaseOf c ≠ some .serving := by
    have hstep := (reached_apply r i).phaseStep c
    have hbefore := h.sessions c
    generalize r.phaseOf c = before at hstep hbefore
    generalize (r.apply i).1.phaseOf c = after at hstep ⊢
    cases hstep with
    | same => exact hbefore
    | served => cases hi
    | dialled listener =>
      rw [h.acceptor] at listener
      cases listener
    | ended => simp
  have hacceptor := (kept_apply r i).1.trans h.acceptor
  have hs := step_apply r i
  generalize (r.apply i).1 = r' at hs hsessions hacceptor ⊢
  generalize (r.apply i).2 = es at hs
  have hkeep (hdispatcher : r'.dispatcher = r.dispatcher) (hrouting : r'.routing = r.routing)
      (houtput : r'.device.output = r.device.output) :
      r'.WorkersEnded ∧ r'.device.output = r.device.output :=
    ⟨⟨hdispatcher.trans h.dispatcher, hrouting.trans h.router, hacceptor, hsessions⟩, houtput⟩
  cases hs with
  | started unstarted =>
    rw [h.dispatcher] at unstarted
    cases unstarted
  | deviceSent | deviceEnded => exact hkeep (by simp) (by simp) (by simp)
  | _ => exact hkeep rfl rfl rfl

/-- After the end no move delivers a byte or changes a metric. -/
theorem WorkersEnded.move (h : r.WorkersEnded) {m : Move} (hm : m.serves = false) :
    (r.move m).1.WorkersEnded ∧ (∀ metrics : Metrics, metrics.observeAll (r.move m).2 = metrics) ∧
      (r.move m).1.device.output = r.device.output ∧
      ∀ c, (r.move m).1.outputOf c = r.outputOf c := by
  cases m with
  | input i =>
    obtain ⟨hended, houtput⟩ := h.apply hm
    refine ⟨hended, fun metrics => ?_, houtput, (reached_apply r i).outputOf⟩
    rcases r.events_apply i with he | ⟨p, q, he⟩ <;> exact (congrArg metrics.observeAll he).trans rfl
  | turn t =>
    rw [move_of_turn?_none (h.quiet t)]
    exact ⟨h, fun _ => rfl, rfl, fun _ => rfl⟩

theorem WorkersEnded.later (h : r.WorkersEnded) {ns : List Move}
    (hns : ∀ m ∈ ns, m.serves = false) :
    (∀ metrics : Metrics, metrics.observeAll (r.trace ns) = metrics) ∧
      (r.final ns).device.output = r.device.output ∧
      ∀ c, (r.final ns).outputOf c = r.outputOf c := by
  induction ns generalizing r with
  | nil => exact ⟨fun _ => rfl, rfl, fun _ => rfl⟩
  | cons m ns ih =>
    obtain ⟨hended, hmetrics, hdevice, hclients⟩ := h.move (hns m List.mem_cons_self)
    obtain ⟨hmetrics', hdevice', hclients'⟩ :=
      ih hended fun m' hm' => hns m' (List.mem_cons_of_mem m hm')
    refine ⟨fun metrics => ?_, hdevice'.trans hdevice, fun c => (hclients' c).trans (hclients c)⟩
    rw [trace_cons, Metrics.observeAll_append, hmetrics, hmetrics']

/-! ## Shutdown -/

/-- Nobody is connected to a relay any more, and nothing follows. -/
structure Severed (metrics : Metrics) (r : Relay) : Prop where
  listener : r.acceptor = .closed
  /-- Nobody reads from the device or writes to it any more, and it sees the end. -/
  device : r.routing = false ∧ r.dispatcher = .ended ∧ r.deviceSeesEnd = true
  clients : ∀ x ∈ r.clients, ∀ k, x.connection = some k → k.phase = .ended ∧ x.seesEnd = true
  /-- Whatever comes later, nobody gets a byte and no metric changes. -/
  later : ∀ ns, (∀ m ∈ ns, m.serves = false) →
    metrics.observeAll (r.trace ns) = metrics ∧ (r.final ns).device.output = r.device.output ∧
      ∀ c, (r.final ns).outputOf c = r.outputOf c

/-- Nothing is left of a relay and in the metrics, and nothing follows. -/
structure NothingLeft (metrics : Metrics) (r : Relay) : Prop where
  queue : r.queue.isEmpty = true
  table : r.pending.size = 0
  pending : metrics.pending = 0
  clientsConnected : metrics.clientsConnected = 0
  running : metrics.running = 0
  listener : r.acceptor = .closed
  /-- Nobody reads from the device or writes to it any more, and it sees the end. -/
  device : r.routing = false ∧ r.dispatcher = .ended ∧ r.deviceSeesEnd = true
  clients : ∀ x ∈ r.clients, ∀ k, x.connection = some k → k.phase = .ended ∧ x.seesEnd = true
  /-- Whatever comes later, nobody gets a byte and no metric changes. -/
  later : ∀ ns, (∀ m ∈ ns, m.serves = false) →
    metrics.observeAll (r.trace ns) = metrics ∧ (r.final ns).device.output = r.device.output ∧
      ∀ c, (r.final ns).outputOf c = r.outputOf c

theorem WorkersEnded.deviceSeesEnd (h : r.WorkersEnded) : r.deviceSeesEnd = true := by
  simp [Relay.deviceSeesEnd, h.dispatcher]

/-- Clearing up leaves the workers alone. -/
theorem WorkersEnded.cleared (h : r.WorkersEnded) : (Instance.clearRelay r).1.WorkersEnded :=
  ⟨h.dispatcher, h.router, h.acceptor, h.sessions⟩

/-- When all workers have ended and nobody waits, no connection is open. -/
theorem WorkersEnded.seesEnd (h : r.WorkersEnded) (hnone : ∀ c, r.phaseOf c ≠ some .waiting)
    {x : Client} (hx : x ∈ r.clients) {k : Connection} (hk : x.connection = some k) :
    k.phase = .ended ∧ x.seesEnd = true := by
  obtain ⟨c, hc⟩ := List.mem_iff_getElem?.mp hx
  have hphase : r.phaseOf c = some k.phase := by
    rw [phaseOf_of_client? hc, Client.phase?, hk]
    rfl
  have hended : k.phase = .ended := by
    have hsessions := h.sessions c
    have hwaiting := hnone c
    rw [hphase] at hsessions hwaiting
    cases hp : k.phase <;> simp [hp] at hsessions hwaiting
    rfl
  exact ⟨hended, by simp [Client.seesEnd, hk, hended]⟩

theorem WorkersEnded.severed (h : r.WorkersEnded) (hnone : ∀ c, r.phaseOf c ≠ some .waiting)
    (metrics : Metrics) : Severed metrics r where
  listener := h.acceptor
  device := ⟨h.router, h.dispatcher, h.deviceSeesEnd⟩
  clients _ hx _ hk := h.seesEnd hnone hx hk
  later _ hns :=
    have ⟨hmetrics, hdevice, hclients⟩ := h.later hns
    ⟨hmetrics metrics, hdevice, hclients⟩

/-- If nothing is left, nobody is connected, either. -/
theorem NothingLeft.severed {metrics : Metrics} (h : NothingLeft metrics r) : Severed metrics r :=
  ⟨h.listener, h.device, h.clients, h.later⟩

/-- The sessions that have begun have ended, one by one. -/
theorem clientsConnected_of_ended (hr : r.clients = []) {ms : List Move}
    (h : (r.final ms).WorkersEnded) (metrics : Metrics) :
    (metrics.observeAll (r.trace ms)).clientsConnected = metrics.clientsConnected := by
  have hserving : (r.final ms).serving = [] :=
    List.eq_nil_iff_forall_not_mem.mpr fun c hc => (h.sessions c).2 (mem_serving.mp hc)
  rw [clientsConnected_final hr ms metrics, hserving]
  exact Int.add_zero _

theorem nothingLeft (hr : r.Fresh) {ms ns : List Move} {i : Instance} (hi : i.relay = r.final ms)
    (hended : (i.relay.final (.input .cancel :: ns)).WorkersEnded) {metrics : Metrics}
    (hmetrics : metrics.clientsConnected = 0) :
    NothingLeft (metrics.observeAll (r.trace ms ++ (i.shutdownBy ns).2))
      (i.shutdownBy ns).1.relay := by
  have hfinal : i.relay.final (.input .cancel :: ns) = r.final (ms ++ .input .cancel :: ns) := by
    rw [hi, final_append]
  have hgauges : metrics.observeAll (r.trace ms ++ (i.shutdownBy ns).2) =
      { metrics.observeAll (r.trace (ms ++ .input .cancel :: ns)) with
        pending := 0, running := 0 } := by
    rw [Metrics.observeAll_append, Instance.observeAll_shutdownBy, ← Metrics.observeAll_append, hi,
      trace_append]
  rw [Instance.relay_shutdownBy]
  have hsevered : Severed (metrics.observeAll (r.trace ms ++ (i.shutdownBy ns).2))
      (Instance.clearRelay (i.relay.final (.input .cancel :: ns))).1 := by
    refine hended.cleared.severed (fun c => ?_) _
    show (i.relay.final (.input .cancel :: ns)).phaseOf c ≠ some .waiting
    rw [hfinal] at hended ⊢
    exact none_waiting hr.clients _ (by rw [hended.acceptor]; rfl) c
  refine
    { hsevered with
      queue := rfl
      table := rfl
      pending := congrArg Metrics.pending hgauges
      clientsConnected := (congrArg Metrics.clientsConnected hgauges).trans ?_
      running := congrArg Metrics.running hgauges }
  rw [hfinal] at hended
  exact (clientsConnected_of_ended hr.clients hended metrics).trans hmetrics

/-- What has been cancelled stays so. -/
theorem cancelled_after_cancel (r : Relay) (ns : List Move) :
    (r.final (.input .cancel :: ns)).cancelled = true := by
  induction ns using List.reverseRecOn with
  | nil => rfl
  | append_singleton ns m ih =>
    rw [← List.cons_append, final_append, final_cons, final_nil]
    by_cases hm : m = .input .cancel
    · rw [hm]
      rfl
    · rw [cancelled_move _ hm, ih]

/-- **A shutdown leaves nothing behind.** Take an instance in any state that its relay can come to.
In whatever order its workers notice that it has been cancelled, and whatever they and the world do
until then, without anything new from outside their turns run out, and then all workers have ended.
However they have come there, after the clearing up nothing is left: queue and table are empty, the
gauges are zero, the listener and all connections are closed, and no later move delivers a byte or
changes a metric. The shutdown in the fixed order of turns is one of these, and to stop a handle a
second time does nothing. -/
theorem shutdown_leaves_nothing_behind (hr : r.Fresh) (ms : List Move) {i : Instance}
    (hi : i.relay = r.final ms) {metrics : Metrics} (hmetrics : metrics.clientsConnected = 0) :
    (∀ ns ts s, (i.relay.final (.input .cancel :: ns)).taking ts = some s →
      ts.length ≤ (i.relay.final (.input .cancel :: ns)).workload ∧
        s = i.relay.final (.input .cancel :: (ns ++ ts.map .turn)) ∧
        (s.Quiet → s.WorkersEnded)) ∧
    (∀ ns, (i.relay.final (.input .cancel :: ns)).WorkersEnded →
      NothingLeft (metrics.observeAll (r.trace ms ++ (i.shutdownBy ns).2))
        (i.shutdownBy ns).1.relay) ∧
    (∃ ns, (i.relay.final (.input .cancel :: ns)).WorkersEnded ∧ i.shutdown = i.shutdownBy ns) ∧
    ∀ k : Handle, k.held = i → k.isOver = false →
      k.stop.1.held = i.shutdown.1 ∧ k.stop.2 = i.shutdown.2 ∧ k.stop.1.isRunning = false ∧
        k.stop.1.stop = (k.stop.1, []) := by
  refine ⟨fun ns ts s hs => ?_, fun ns hended => nothingLeft hr hi hended hmetrics, ?_, ?_⟩
  · have hlength := length_of_taking hs
    have hworkload := (i.relay.final (.input .cancel :: ns)).effort_le_workload
    have hfinal : s = i.relay.final (.input .cancel :: (ns ++ ts.map .turn)) := by
      rw [← List.cons_append, final_append, final_of_taking hs]
    refine ⟨by omega, hfinal, workersEnded_of_quiet ?_⟩
    rw [hfinal]
    exact cancelled_after_cancel i.relay _
  · obtain ⟨ns, -, hrun, hshutdown⟩ := i.shutdown_eq_shutdownBy
    have hquiet := i.relay.quiet_after .cancel
    rw [hrun] at hquiet
    exact ⟨ns, workersEnded_of_quiet (cancelled_after_cancel i.relay ns) hquiet, hshutdown⟩
  · rintro k rfl hover
    have hstop : k.stop = ({ held := k.held.shutdown.1, isOver := true }, k.held.shutdown.2) :=
      if_neg (by simp [hover])
    rw [hstop]
    exact ⟨rfl, rfl, rfl, rfl⟩

/-- Two sessions serve, one has been accepted and not begun, and one waits. One request is about to
be written and another queued; the acceptor rests, and the device has ended. -/
def busy : List Move :=
  [ .input (.dial ⟨.v4 127 0 0 1, 40001⟩), .input (.dial ⟨.v4 10 0 0 9, 40000⟩),
    .input (.dial ⟨.v4 10 0 0 8, 40000⟩), .input (.dial ⟨.v4 10 0 0 7, 40000⟩),
    .turn .accept, .turn .accept, .turn .accept, .turn (.begin 0), .turn (.begin 1),
    .input (.clientSends 0 [0, 1, 0, 0, 0, 2, 1, 3]), .turn (.intake 0),
    .input (.clientSends 1 [0, 2, 0, 0, 0, 2, 1, 3]), .turn (.intake 1),
    .input (.deviceEnds .closed), .turn .route, .turn .take, .turn .record, .input .failAccept,
    .turn .accept ]

/-- All of it is gone after a shutdown. -/
theorem nothingLeft_of_busy :
    let r := Instance.freshRelay {}
    let i : Instance := ⟨⟨.v4 0 0 0 0, 5020⟩, ⟨.v4 127 0 0 1, 502⟩, r.final busy⟩
    let m := Metrics.ofEvents (r.trace busy)
    r.Fresh ∧ (m.pending = 1 ∧ m.clientsConnected = 2 ∧ i.relay.queue.size = 1) ∧
      i.relay.acceptor = .resting ∧ i.deviceUp = false ∧
      NothingLeft (Metrics.observeAll {} (r.trace busy ++ i.shutdown.2)) i.shutdown.1.relay := by
  intro r i m
  have hr : r.Fresh := fresh_freshRelay {}
  have hi : i.relay = r.final busy := by dsimp only [i]
  have hmetrics : Metrics.clientsConnected {} = 0 := rfl
  obtain ⟨-, hleft, ⟨ns, hended, hshutdown⟩, -⟩ := shutdown_leaves_nothing_behind hr busy hi hmetrics
  refine ⟨hr, ⟨?_, ?_, ?_⟩, ?_, ?_, ?_⟩
  · decide +kernel
  · decide +kernel
  · decide +kernel
  · decide +kernel
  · decide +kernel
  · rw [hshutdown]
    exact hleft ns hended

end Relay

end ModbusRelay
