import ModbusRelay.Host.Control
import ModbusRelay.Machine
import ModbusRelay.Metrics.Exposition
import ModbusRelay.Proofs.Relay.Account
import ModbusRelay.Proofs.Relay.Shutdown

/-!
Starting and stopping the one instance of a process.

Calls come in any order, directly or through the control interface, and in between the instance
makes its moves, others open and close listeners on the network, and the operating system changes
the way in which it answers. Between two calls a process is in one of two stages: either nothing of
it is there, or one instance runs, with its listener and its connection to the device (`Stage`).
Every move keeps to these stages (`stage_step`), and only a start that succeeds and a stop lead from
one to the other; so the status, the gauge, the readiness page, the sockets and the answers so far
all say the same (`lifecycle`).
-/

namespace ModbusRelay

/-! ## Calls and moves -/

/-- A call to the process. -/
inductive HostCall where
  | startWith (s : Settings)
  | start (listenHost : String) (listenPort : UInt16) (targetHost : String) (targetPort : UInt16)
  | stop
  | status
  /-- By the control interface. -/
  | request (q : HttpRequest)

/-- The answer to a call. -/
inductive HostAnswer where
  | start (outcome : Except RelayError StartStatus)
  | stop (outcome : StopStatus)
  | status (answer : HostStatus)
  | reply (answer : ControlReply)

/-- What the start came to, if the call made one. -/
def HostAnswer.start? : HostAnswer → Option (Except RelayError StartStatus)
  | .start outcome => some outcome
  | .reply (.started outcome) => some (.ok outcome)
  | .reply (.failed cause) => some (.error cause)
  | _ => none

/-- What the stop came to, if the call made one. -/
def HostAnswer.stop? : HostAnswer → Option StopStatus
  | .stop outcome | .reply (.stopped outcome) => some outcome
  | _ => none

theorem HostAnswer.stop?_of_start? {a : HostAnswer} {o : Except RelayError StartStatus}
    (h : a.start? = some o) : a.stop? = none := by
  unfold start? at h
  split at h <;> first | rfl | cases h

theorem HostAnswer.start?_of_stop? {a : HostAnswer} {o : StopStatus} (h : a.stop? = some o) :
    a.start? = none := by
  cases hstart : a.start? with
  | none => rfl
  | some outcome =>
    rw [stop?_of_start? hstart] at h
    cases h

/-- A start has succeeded, and no stop has been made since. -/
def StartedSinceStop (answers : List HostAnswer) : Prop :=
  ∃ before a later, answers = before ++ a :: later ∧ a.start? = some (.ok .started) ∧
    ∀ b ∈ later, b.stop? = none

/-- One thing that happens to a process or around it. -/
inductive HostMove where
  | call (c : HostCall)
  /-- The world does something to the relay; only a stop cancels it. -/
  | input (i : Input) (goesOn : i ≠ .cancel)
  | turn (t : Turn)
  /-- From now on the operating system answers so. -/
  | rewire (system : System)
  /-- Somebody else listens. -/
  | otherOpens (a : SocketAddress)
  /-- Somebody else does not listen any more. -/
  | otherCloses (a : SocketAddress)
  /-- The metrics server comes to be bound. -/
  | serveMetrics (address : String)

namespace Host

/-- A call, and the answer to it. -/
def call (h : Host) : HostCall → HostAnswer × Host
  | .startWith s =>
    let (outcome, h) := h.startWith s
    (.start outcome, h)
  | .start listenHost listenPort targetHost targetPort =>
    let (outcome, h) := h.start listenHost listenPort targetHost targetPort
    (.start outcome, h)
  | .stop =>
    let (outcome, h) := h.stop
    (.stop outcome, h)
  | .status => (.status h.status, h)
  | .request q =>
    let (reply, h) := h.control q
    (.reply reply, h)

/-- An instance runs. -/
def Live (h : Host) : Prop := ∃ i, h.active = some i ∧ i.isRunning = true

/-- The address of the instance that runs. -/
def liveAddresses (h : Host) : List SocketAddress :=
  ((h.active.filter (·.isRunning)).map (·.listen)).toList

/-- The device of the instance that runs. -/
def liveTargets (h : Host) : List SocketAddress :=
  ((h.active.filter (·.isRunning)).map (·.target)).toList

/-- Who listens besides the instance, given who of other processes does. -/
def besides (h : Host) (others : List SocketAddress) : List SocketAddress :=
  h.metricsServer.toList ++ others

/-- Adds lines to the log. -/
def sayAll (h : Host) (lines : List LogLine) : Host := { h with log := h.log ++ lines }

@[simp]
theorem sayAll_nil (h : Host) : h.sayAll [] = h := by simp [sayAll]

theorem sayAll_say (h : Host) (line : LogLine) (lines : List LogLine) :
    (h.say line).sayAll lines = h.sayAll (line :: lines) := by
  simp [say, sayAll]

/-- A process that has no instance. -/
structure Idle (h : Host) : Prop where
  active : h.active = none
  closing : h.closing = []
  running : h.metrics.running = 0

end Host

/-- A process, and where on its network somebody else listens. -/
structure Site where
  host : Host
  others : List SocketAddress

namespace Site

/-- The process alone with those who listen already. -/
def around (h : Host) : Site := ⟨h, h.network.listeners⟩

/-- A move, and the answer if it is a call. -/
def step (w : Site) : HostMove → Site × List HostAnswer
  | .call c =>
    let (answer, host) := w.host.call c
    ({ w with host }, [answer])
  | .input i _ => ({ w with host := w.host.withRelay (·.apply i) }, [])
  | .turn t => ({ w with host := w.host.withRelay (·.move (.turn t)) }, [])
  | .rewire system =>
    ({ w with host := { w.host with network := { w.host.network with system } } }, [])
  | .otherOpens a =>
    ({ host :=
        { w.host with network := { w.host.network with listeners := a :: w.host.network.listeners } }
       others := a :: w.others }, [])
  | .otherCloses a =>
    if a ∈ w.others then
      ({ host := { w.host with network := w.host.network.release a }, others := w.others.erase a },
        [])
    else (w, [])
  | .serveMetrics address => ({ w with host := w.host.serveMetrics address }, [])

/-- The process after a list of moves, and the answers to the calls. -/
def run (w : Site) : List HostMove → Site × List HostAnswer
  | [] => (w, [])
  | m :: ms =>
    let (w, answers) := w.step m
    let (w, later) := run w ms
    (w, answers ++ later)

end Site

/-! ## What a network holds -/

namespace Network

/-- These listeners and these connections are there, in any order. -/
structure Holds (n : Network) (listeners links : List SocketAddress) : Prop where
  listeners : n.listeners.Perm listeners
  links : n.links.Perm links

variable {n n' : Network} {listeners links : List SocketAddress} {a : SocketAddress}

/-- Somebody starts to listen. -/
theorem Holds.cons (h : n.Holds listeners links) (a : SocketAddress) :
    Holds { n with listeners := a :: n.listeners } (a :: listeners) links :=
  ⟨h.listeners.cons a, h.links⟩

theorem Holds.release (h : n.Holds listeners links) (a : SocketAddress) :
    (n.release a).Holds (listeners.erase a) links :=
  ⟨h.listeners.erase a, h.links⟩

theorem Holds.perm {others : List SocketAddress} (h : n.Holds listeners links)
    (hperm : listeners.Perm others) : n.Holds others links :=
  ⟨h.listeners.trans hperm, h.links⟩

theorem bind_eq_ok {text : String} (h : n.bind text = .ok (a, n')) :
    n' = { n with listeners := a :: n.listeners } := by
  unfold bind at h
  split at h <;> cases h
  rfl

theorem connect_eq_ok {text : String} (h : n.connect text = .ok (a, n')) :
    n' = { n with links := a :: n.links } := by
  unfold connect at h
  split at h <;> cases h
  rfl

end Network

/-! ## The two stages -/

/-- Between two calls nothing of the process is there, or one instance runs, listens and is
connected to its device. -/
inductive Stage (h : Host) (others links : List SocketAddress) : Bool → Prop where
  | down (active : h.active = none) (closing : h.closing = []) (running : h.metrics.running = 0)
      (network : h.network.Holds (h.besides others) links) : Stage h others links false
  | up {i : Instance} (active : h.active = some i) (closing : h.closing = [])
      (goesOn : i.relay.cancelled = false) (running : h.metrics.running = 1)
      (network : h.network.Holds (i.listen :: h.besides others) (i.target :: links)) :
      Stage h others links true

namespace Stage

variable {h h' : Host} {others others' links : List SocketAddress} {b : Bool}

/-- What neither starts nor stops anything. -/
theorem congr (hs : Stage h others links b) (active : h'.active = h.active)
    (closing : h'.closing = h.closing) (running : h'.metrics.running = h.metrics.running)
    (network : ∀ own ends, h.network.Holds (own ++ h.besides others) ends →
      h'.network.Holds (own ++ h'.besides others') ends) : Stage h' others' links b := by
  cases hs with
  | down ha hc hr hn =>
    exact .down (active.trans ha) (closing.trans hc) (running.trans hr) (network [] _ hn)
  | up ha hc hgoesOn hr hn =>
    exact .up (active.trans ha) (closing.trans hc) hgoesOn (running.trans hr) (network [_] _ hn)

theorem sayAll (hs : Stage h others links b) (lines : List LogLine) :
    Stage (h.sayAll lines) others links b :=
  hs.congr rfl rfl rfl fun _ _ => id

theorem say (hs : Stage h others links b) (line : LogLine) : Stage (h.say line) others links b :=
  hs.sayAll [line]

theorem live_iff (hs : Stage h others links b) : h.Live ↔ b = true := by
  cases hs with
  | down active => simp [Host.Live, active]
  | up active _ goesOn => simp [Host.Live, active, Instance.isRunning, goesOn]

end Stage

/-! ## Launching and shutting down -/

namespace Instance

variable {s : Settings} {n : Network}

/-- The network after an instance has opened its sockets. -/
def enter (i : Instance) (n : Network) : Network :=
  { n with listeners := i.listen :: n.listeners, links := i.target :: n.links }

theorem openListener_cases (s : Settings) (n : Network) :
    (∃ e, openListener s n = (.error e, n)) ∨
      ∃ a, openListener s n = (.ok a, { n with listeners := a :: n.listeners }) := by
  unfold openListener
  split
  · exact .inl ⟨_, rfl⟩
  · next listen bound hbind =>
    obtain rfl := Network.bind_eq_ok hbind
    split
    · next cause _ => exact .inl ⟨.io cause, by simp [Network.release]⟩
    · exact .inr ⟨_, rfl⟩

theorem connectDevice_cases (s : Settings) (n : Network) :
    (∃ e, connectDevice s n = (.error e, n)) ∨
      ∃ a, connectDevice s n = (.ok a, { n with links := a :: n.links }) := by
  unfold connectDevice
  split
  · exact .inl ⟨_, rfl⟩
  · exact .inl ⟨_, rfl⟩
  · next target linked hconnect =>
    obtain rfl := Network.connect_eq_ok hconnect
    split
    · next cause _ => exact .inl ⟨.io cause, by simp [Network.disconnect]⟩
    · exact .inr ⟨_, rfl⟩

/-- A launch that fails gives back all that it has opened, and one that succeeds leaves a relay that
goes on, with its listener and its connection. -/
theorem launch_cases (s : Settings) (n : Network) :
    (∃ e, launch s n = (.error e, n)) ∨
      ∃ i, i.relay.cancelled = false ∧ launch s n = (.ok i, i.enter n) := by
  unfold launch
  rcases openListener_cases s n with ⟨e, hopen⟩ | ⟨listen, hopen⟩
  · exact .inl ⟨e, by rw [hopen]⟩
  · rw [hopen]
    rcases connectDevice_cases s { n with listeners := listen :: n.listeners } with
      ⟨e, hconnect⟩ | ⟨target, hconnect⟩
    · exact .inl ⟨e, by simp [hconnect, Network.release]⟩
    · exact .inr ⟨⟨listen, target, freshRelay s⟩, rfl, by simp [hconnect, enter]⟩

theorem holds_enter {listeners links : List SocketAddress} (h : n.Holds listeners links)
    (i : Instance) : (i.enter n).Holds (i.listen :: listeners) (i.target :: links) :=
  ⟨h.listeners.cons i.listen, h.links.cons i.target⟩

theorem holds_leave {listeners links : List SocketAddress} {i : Instance}
    (h : n.Holds (i.listen :: listeners) (i.target :: links)) :
    (i.leave n).Holds listeners links := by
  have hlisteners := h.listeners.erase i.listen
  have hlinks := h.links.erase i.target
  rw [List.erase_cons_head] at hlisteners hlinks
  exact ⟨hlisteners, hlinks⟩

theorem running_observeAll_shutdown (i : Instance) (m : Metrics) :
    (m.observeAll i.shutdown.2).running = 0 := by
  obtain ⟨ns, -, -, hshutdown⟩ := i.shutdown_eq_shutdownBy
  rw [hshutdown, observeAll_shutdownBy]

end Instance

/-- A launch leaves the process as it was, or with an instance that goes on. -/
theorem Host.launch_cases (h : Host) (s : Settings) :
    (∃ e, h.launch s = (.error e, h)) ∨
      ∃ i : Instance, i.relay.cancelled = false ∧ h.launch s =
        (.ok .started,
          { h with network := i.enter h.network, active := some i }.observe [i.startedEvent s]) := by
  unfold Host.launch
  split
  · exact .inl ⟨_, rfl⟩
  · rcases Instance.launch_cases s h.network with ⟨e, hlaunch⟩ | ⟨i, goesOn, hlaunch⟩
    · exact .inl ⟨e, by rw [hlaunch]⟩
    · exact .inr ⟨i, goesOn, by rw [hlaunch]⟩

/-- What a call comes to, by the stage in which it finds the process. -/
inductive Called (h : Host) (others links : List SocketAddress) :
    Bool → HostAnswer → Host → Prop where
  | started {a : HostAnswer} {h' : Host} (start : a.start? = some (.ok .started))
      (stage : Stage h' others links true) : Called h others links false a h'
  | failed {a : HostAnswer} {h' : Host} {e : RelayError} (start : a.start? = some (.error e))
      (stage : Stage h' others links false) : Called h others links false a h'
  | alreadyRunning {a : HostAnswer} (lines : List LogLine)
      (start : a.start? = some (.ok .alreadyRunning)) :
      Called h others links true a (h.sayAll lines)
  | stopped {a : HostAnswer} {h' : Host} (stop : a.stop? = some .stopped)
      (stage : Stage h' others links false) : Called h others links true a h'
  | notRunning {a : HostAnswer} (lines : List LogLine) (stop : a.stop? = some .notRunning) :
      Called h others links false a (h.sayAll lines)
  | neither {b : Bool} {a : HostAnswer} (lines : List LogLine) (start : a.start? = none)
      (stop : a.stop? = none) : Called h others links b a (h.sayAll lines)

namespace Called

variable {h h' : Host} {others links : List SocketAddress} {b : Bool} {a : HostAnswer}

/-- A call that changes nothing at all. -/
theorem unchanged (start : a.start? = none) (stop : a.stop? = none) :
    Called h others links b a h := by
  have hcalled : Called h others links b a (h.sayAll []) := .neither [] start stop
  rwa [Host.sayAll_nil] at hcalled

/-- A call that is logged first. -/
theorem of_say {line : LogLine} (hc : Called (h.say line) others links b a h') :
    Called h others links b a h' := by
  cases hc with
  | started start stage => exact .started start stage
  | failed start stage => exact .failed start stage
  | alreadyRunning lines start => exact h.sayAll_say line lines ▸ .alreadyRunning _ start
  | stopped stop stage => exact .stopped stop stage
  | notRunning lines stop => exact h.sayAll_say line lines ▸ .notRunning _ stop
  | neither lines start stop => exact h.sayAll_say line lines ▸ .neither _ start stop

/-- A start is in vain just if an instance runs, and then it only writes to the log. -/
theorem start (hc : Called h others links b a h') {outcome : Except RelayError StartStatus}
    (hstart : a.start? = some outcome) :
    (outcome = .ok .alreadyRunning ↔ b = true) ∧
      (b = true → ∃ lines, h' = h.sayAll lines) := by
  cases hc with
  | started start | failed start =>
    rw [start] at hstart
    cases hstart
    simp
  | alreadyRunning lines start =>
    rw [start] at hstart
    cases hstart
    exact ⟨by simp, fun _ => ⟨lines, rfl⟩⟩
  | stopped stop | notRunning _ stop =>
    rw [HostAnswer.start?_of_stop? stop] at hstart
    cases hstart
  | neither _ start =>
    rw [start] at hstart
    cases hstart

theorem stop (hc : Called h others links b a h') {outcome : StopStatus}
    (hstop : a.stop? = some outcome) : outcome = .stopped ↔ b = true := by
  cases hc with
  | started start | failed start | alreadyRunning _ start =>
    rw [HostAnswer.stop?_of_start? start] at hstop
    cases hstop
  | stopped stop | notRunning _ stop =>
    rw [stop] at hstop
    cases hstop
    simp
  | neither _ _ stop =>
    rw [stop] at hstop
    cases hstop

end Called

namespace Stage

variable {h : Host} {others links : List SocketAddress} {b : Bool}

theorem launch (hs : Stage h others links false) (s : Settings) :
    (∃ e h', h.launch s = (.error e, h') ∧ Stage h' others links false) ∨
      ∃ h', h.launch s = (.ok .started, h') ∧ Stage h' others links true := by
  rcases h.launch_cases s with ⟨e, hlaunch⟩ | ⟨i, goesOn, hlaunch⟩
  · exact .inl ⟨e, h, hlaunch, hs⟩
  · cases hs with
    | down active closing running network =>
      exact .inr ⟨_, hlaunch, .up rfl closing goesOn rfl (Instance.holds_enter network i)⟩

/-- A start, in either stage. -/
theorem startWith (hs : Stage h others links b) (s : Settings) :
    (b = false ∧ (∃ e h', h.startWith s = (.error e, h') ∧ Stage h' others links false)) ∨
      (b = false ∧ ∃ h', h.startWith s = (.ok .started, h') ∧ Stage h' others links true) ∨
      b = true ∧ ∃ line, h.startWith s = (.ok .alreadyRunning, h.say line) := by
  cases hs with
  | down active closing running network =>
    have hlaunch := launch (.down active closing running network) s
    rw [show h.launch s = h.startWith s by simp [Host.startWith, active]] at hlaunch
    rcases hlaunch with hfailed | hstarted
    · exact .inl ⟨rfl, hfailed⟩
    · exact .inr (.inl ⟨rfl, hstarted⟩)
  | up active _ goesOn =>
    refine .inr (.inr ⟨rfl, ?_⟩)
    simp only [Host.startWith, active, Instance.isRunning, goesOn]
    exact ⟨_, rfl⟩

theorem stop (hs : Stage h others links b) :
    (b = false ∧ h.stop = (.notRunning, h)) ∨
      b = true ∧ ∃ h', h.stop = (.stopped, h') ∧ Stage h' others links false := by
  cases hs with
  | down active => exact .inl ⟨rfl, by simp [Host.stop, Host.beginStop, active]⟩
  | @up i active closing _ _ network =>
    refine .inr ⟨rfl, { h with active := none, closing := [] }.shutDown i, ?_, ?_⟩
    · simp [Host.stop, Host.beginStop, Host.finishStop, active, closing]
    · exact .down rfl rfl (i.running_observeAll_shutdown _) (Instance.holds_leave network)

/-- A start by the control interface. -/
theorem startRequested (hs : Stage h others links b) (text : String) :
    Called h others links b (.reply (h.startRequested text).1) (h.startRequested text).2 := by
  unfold Host.startRequested
  split
  · exact .unchanged rfl rfl
  · next request _ =>
    split
    · next targetHost targetPort _ _ =>
      rcases hs.startWith (h.template.withParts request.listenHost request.listenPort targetHost
          targetPort) with ⟨rfl, e, h', hstart, hstage⟩ | ⟨rfl, h', hstart, hstage⟩ |
          ⟨rfl, line, hstart⟩
      · simp only [Host.start, hstart]
        exact .failed rfl (hstage.say _)
      · simp only [Host.start, hstart]
        exact .started rfl hstage
      · simp only [Host.start, hstart]
        exact .alreadyRunning [line] rfl
    · exact .unchanged rfl rfl

/-- What the calls come to. -/
theorem called (hs : Stage h others links b) (c : HostCall) :
    Called h others links b (h.call c).1 (h.call c).2 := by
  have hstart (s : Settings) :
      Called h others links b (.start (h.startWith s).1) (h.startWith s).2 := by
    rcases hs.startWith s with ⟨rfl, e, h', hstart, hstage⟩ | ⟨rfl, h', hstart, hstage⟩ |
      ⟨rfl, line, hstart⟩
    · rw [hstart]
      exact .failed rfl hstage
    · rw [hstart]
      exact .started rfl hstage
    · rw [hstart]
      exact .alreadyRunning [line] rfl
  have hstop {h : Host} (hs : Stage h others links b) (answer : StopStatus → HostAnswer)
      (hanswer : ∀ s, (answer s).stop? = some s) :
      Called h others links b (answer h.stop.1) h.stop.2 := by
    rcases hs.stop with ⟨rfl, hstop⟩ | ⟨rfl, h', hstop, hstage⟩
    · rw [hstop]
      have hcalled : Called h others links false (answer .notRunning) (h.sayAll []) :=
        .notRunning [] (hanswer _)
      rwa [Host.sayAll_nil] at hcalled
    · rw [hstop]
      exact .stopped (hanswer _) hstage
  cases c with
  | startWith s => exact hstart s
  | start listenHost listenPort targetHost targetPort => exact hstart _
  | stop => exact hstop hs .stop fun _ => rfl
  | status => exact .unchanged rfl rfl
  | request q =>
    have hs := hs.say (Host.requestLine q)
    suffices hcalled : Called (h.say (Host.requestLine q)) others links b (h.call (.request q)).1
        (h.call (.request q)).2 from hcalled.of_say
    simp only [Host.call, Host.control, Host.handle]
    split
    · split
      · exact hs.startRequested _
      · exact .unchanged rfl rfl
    · exact hstop hs (fun s => .reply (.stopped s)) fun _ => rfl
    · exact .unchanged rfl rfl
    · exact .unchanged rfl rfl

end Stage

/-! ## What happens in between -/

/-- Is the event about something in a relay, and not about an instance as a whole? -/
def RelayEvent.isWithin : RelayEvent → Bool
  | .started .. | .stopping _ | .stopped _ => false
  | _ => true

theorem Metrics.running_observeAll {es : Trace} (h : ∀ e ∈ es, e.isWithin) (m : Metrics) :
    (m.observeAll es).running = m.running := by
  induction es generalizing m with
  | nil => rfl
  | cons e es ih =>
    have hstep : m.observeAll (e :: es) = (m.observe e).observeAll es := rfl
    have he := h e List.mem_cons_self
    rw [hstep, ih fun e' he' => h e' (List.mem_cons_of_mem e he')]
    cases e with
    | received p q => cases p <;> rfl
    | started | stopping | stopped => cases he
    | _ => rfl

/-- A move of a relay tells of nothing but the relay. -/
theorem Relay.within_move (r : Relay) (m : Move) : ∀ e ∈ (r.move m).2, e.isWithin := by
  have hs := step_move r m
  generalize (r.move m).1 = r' at hs
  generalize (r.move m).2 = es at hs
  cases hs with
  | aside _ _ _ _ _ _ quiet =>
    intro e he
    have := quiet e he
    cases e <;> first | rfl | cases this
  | routed _ _ _ verdict =>
    intro e he
    have := verdict.isPassing _ e he
    cases e <;> first | rfl | cases this
  | lost _ told =>
    intro e he
    have := r.isLoss_loseDevice told e he
    cases e <;> first | rfl | cases this
  | _ => simp [RelayEvent.isWithin]

namespace Stage

variable {h : Host} {others links : List SocketAddress} {b : Bool}

/-- What the instance does, and what is done to it, leaves the process in its stage. -/
theorem withRelay (hs : Stage h others links b) {m : Move} (hm : m ≠ .input .cancel) :
    Stage (h.withRelay (·.move m)) others links b := by
  cases hs with
  | down active closing running network =>
    simp only [Host.withRelay, active]
    exact .down active closing running network
  | @up i active closing goesOn running network =>
    simp only [Host.withRelay, active]
    refine .up (i := { i with relay := (i.relay.move m).1 }) rfl closing
      ((i.relay.cancelled_move hm).trans goesOn) ?_ network
    exact (Metrics.running_observeAll (i.relay.within_move m) _).trans running

/-- Somebody else listens. -/
theorem listens (hs : Stage h others links b) (a : SocketAddress) :
    Stage { h with network := { h.network with listeners := a :: h.network.listeners } }
      (a :: others) links b := by
  refine hs.congr rfl rfl rfl fun own ends hn => (hn.cons a).perm ?_
  simp only [Host.besides, ← List.append_assoc]
  exact List.perm_middle.symm

/-- Somebody else does not listen any more. -/
theorem releases (hs : Stage h others links b) {a : SocketAddress} (ha : a ∈ others) :
    Stage { h with network := h.network.release a } (others.erase a) links b := by
  refine hs.congr rfl rfl rfl fun own ends hn => (hn.release a).perm ?_
  simp only [Host.besides, ← List.append_assoc]
  refine (List.perm_append_comm.erase a).trans ?_
  rw [List.erase_append_left _ ha]
  exact List.perm_append_comm

theorem serveMetrics (hs : Stage h others links b) (address : String) :
    Stage (h.serveMetrics address) others links b := by
  unfold Host.serveMetrics
  split
  · exact hs
  · next hnone =>
    split
    · exact hs.say _
    · next a network hbind =>
      obtain rfl := Network.bind_eq_ok hbind
      let served : Host :=
        { h with
          network := { h.network with listeners := a :: h.network.listeners }
          metricsServer := some a }
      have hserved : Stage served others links b := by
        refine hs.congr rfl rfl rfl fun own ends hn => (hn.cons a).perm ?_
        simp only [served, Host.besides, hnone]
        exact List.perm_middle.symm
      exact hserved.say _

end Stage

/-! ## Runs -/

theorem startedSinceStop_snoc (answers : List HostAnswer) (a : HostAnswer) :
    StartedSinceStop (answers ++ [a]) ↔
      a.start? = some (.ok .started) ∨ a.stop? = none ∧ StartedSinceStop answers := by
  constructor
  · rintro ⟨before, x, later, heq, hstart, hlater⟩
    rcases List.eq_nil_or_concat later with rfl | ⟨later, b, rfl⟩
    · obtain ⟨-, hax⟩ := List.append_inj' heq rfl
      cases hax
      exact .inl hstart
    · rw [List.concat_eq_append, ← List.cons_append, ← List.append_assoc] at heq
      obtain ⟨hanswers, hab⟩ := List.append_inj' heq rfl
      cases hab
      exact .inr ⟨hlater a (by simp), before, x, later, hanswers, hstart,
        fun b hb => hlater b (by simp [hb])⟩
  · rintro (hstart | ⟨hstop, before, x, later, rfl, hstart, hlater⟩)
    · exact ⟨answers, a, [], rfl, hstart, by simp⟩
    · refine ⟨before, x, later ++ [a], by simp, hstart, fun b hb => ?_⟩
      rcases List.mem_append.mp hb with hb | hb
      · exact hlater b hb
      · rwa [List.mem_singleton.mp hb]

/-- After a move the process is in the stage that its answers tell. Listeners that nobody closes may
be there besides. -/
theorem stage_step {w : Site} {own links : List SocketAddress} {b : Bool}
    (hs : Stage w.host (w.others ++ own) links b) {answers : List HostAnswer}
    (hb : b = true ↔ StartedSinceStop answers) (m : HostMove) :
    ∃ b', Stage (w.step m).1.host ((w.step m).1.others ++ own) links b' ∧
      (b' = true ↔ StartedSinceStop (answers ++ (w.step m).2)) := by
  have hsame {w' : Site} (h : Stage w'.host (w'.others ++ own) links b) :
      ∃ b', Stage w'.host (w'.others ++ own) links b' ∧
        (b' = true ↔ StartedSinceStop (answers ++ [])) :=
    ⟨b, h, by rwa [List.append_nil]⟩
  cases m with
  | call c =>
    have hcalled := hs.called c
    simp only [Site.step]
    generalize (w.host.call c).1 = a at hcalled ⊢
    generalize (w.host.call c).2 = host at hcalled ⊢
    rw [startedSinceStop_snoc, ← hb]
    cases hcalled with
    | started start stage => exact ⟨true, stage, by simp [start]⟩
    | failed start stage => exact ⟨false, stage, by simp [start]⟩
    | alreadyRunning lines start =>
      exact ⟨true, hs.sayAll lines, by simp [HostAnswer.stop?_of_start? start]⟩
    | stopped stop stage =>
      exact ⟨false, stage, by simp [stop, HostAnswer.start?_of_stop? stop]⟩
    | notRunning lines stop =>
      exact ⟨false, hs.sayAll lines, by simp [HostAnswer.start?_of_stop? stop]⟩
    | neither lines start stop => exact ⟨b, hs.sayAll lines, by simp [start, stop]⟩
  | input i goesOn => exact hsame (hs.withRelay (m := .input i) (by simpa using goesOn))
  | turn t => exact hsame (hs.withRelay (m := .turn t) (by simp))
  | rewire system => exact hsame (hs.congr rfl rfl rfl fun _ _ hn => ⟨hn.listeners, hn.links⟩)
  | otherOpens a => exact hsame (hs.listens a)
  | otherCloses a =>
    simp only [Site.step]
    split
    · next ha =>
      have hreleased := hs.releases (List.mem_append_left own ha)
      rw [List.erase_append_left _ ha] at hreleased
      exact hsame hreleased
    · exact hsame hs
  | serveMetrics address => exact hsame (hs.serveMetrics address)

theorem stage_run (ms : List HostMove) {w : Site} {own links : List SocketAddress} {b : Bool}
    (hs : Stage w.host (w.others ++ own) links b) {answers : List HostAnswer}
    (hb : b = true ↔ StartedSinceStop answers) :
    ∃ b', Stage (w.run ms).1.host ((w.run ms).1.others ++ own) links b' ∧
      (b' = true ↔ StartedSinceStop (answers ++ (w.run ms).2)) := by
  induction ms generalizing w b answers with
  | nil => exact ⟨b, hs, by simpa [Site.run] using hb⟩
  | cons m ms ih =>
    obtain ⟨b', hs', hb'⟩ := stage_step hs hb m
    obtain ⟨b'', hs'', hb''⟩ := ih hs' hb'
    refine ⟨b'', hs'', ?_⟩
    rw [hb'', List.append_assoc]
    rfl

/-! ## What a process tells of itself -/

/-- All that tells whether an instance runs agrees, in a process that has opened the connections
`links` besides. -/
structure Agreement (w : Site) (links : List SocketAddress) (answers : List HostAnswer) : Prop where
  status : w.host.status.running = true ↔ w.host.Live
  gauge : w.host.metrics.running = 1 ↔ w.host.Live
  ready : (w.host.metrics.page "/ready").code = 200 ↔ w.host.Live
  /-- Besides the metrics server and the others only the instance that runs listens, at its one
  address. -/
  listeners : w.host.network.listeners.Perm (w.host.liveAddresses ++ w.host.besides w.others)
  /-- And it alone is connected to a device. -/
  links : w.host.network.links.Perm (w.host.liveTargets ++ links)
  history : StartedSinceStop answers ↔ w.host.Live
  /-- No instance is on its way out. -/
  closing : w.host.closing = []

theorem Metrics.code_ready (m : Metrics) :
    (m.page "/ready").code = if 0 < m.running then 200 else 503 := by
  simp only [page, ready]
  by_cases h : 0 < m.running <;> simp [h, HttpResponse.plain]

theorem Stage.agreement {w : Site} {links : List SocketAddress} {b : Bool}
    (hs : Stage w.host w.others links b) {answers : List HostAnswer}
    (hb : b = true ↔ StartedSinceStop answers) : Agreement w links answers := by
  have hready : (w.host.metrics.page "/ready").code = 200 ↔ 0 < w.host.metrics.running := by
    rw [Metrics.code_ready]
    by_cases h : 0 < w.host.metrics.running <;> simp [h]
  have hlive := hs.live_iff
  have hhistory := hb.symm.trans hlive.symm
  cases hs with
  | down active closing running network =>
    have hnot : ¬w.host.Live := by simp [hlive]
    refine ⟨?_, ?_, ?_, ?_, ?_, hhistory, closing⟩
    · simp [Host.status, active, hnot]
    · simp [running, hnot]
    · simp [hready, running, hnot]
    · simpa [Host.liveAddresses, active] using network.listeners
    · simpa [Host.liveTargets, active] using network.links
  | @up i active closing goesOn running network =>
    have hrunning : i.isRunning = true := by simp [Instance.isRunning, goesOn]
    have hone : w.host.Live := ⟨i, active, hrunning⟩
    refine ⟨?_, ?_, ?_, ?_, ?_, hhistory, closing⟩
    · simp [Host.status, active, hrunning, hone]
    · simp [running, hone]
    · simp [hready, running, hone]
    · simpa [Host.liveAddresses, active, Option.filter, hrunning] using network.listeners
    · simpa [Host.liveTargets, active, Option.filter, hrunning] using network.links

/-- **The life of an instance.** Whatever calls are made to a process that has no instance and no
metrics server yet, by the control interface or without it, whatever the operating system answers
when workers, a listener or a connection are wanted, and whatever the instance and its surroundings
do in between: the status, the gauge, the readiness page, the sockets and the answers so far agree
on whether an instance runs. A start answers that one is running already just if one is, and then it
does nothing but write to the log; a stop answers that it has stopped one just if one was
running. -/
theorem lifecycle {h : Host} (idle : h.Idle) (unserved : h.metricsServer = none)
    (ms : List HostMove) :
    let w := ((Site.around h).run ms).1
    Agreement w h.network.links ((Site.around h).run ms).2 ∧
      (∀ c outcome, (w.host.call c).1.start? = some outcome →
        (outcome = .ok .alreadyRunning ↔ w.host.Live) ∧
          (w.host.Live → ∃ lines, (w.host.call c).2 = w.host.sayAll lines)) ∧
      ∀ c outcome, (w.host.call c).1.stop? = some outcome →
        (outcome = .stopped ↔ w.host.Live) := by
  intro w
  have hnone : false = true ↔ StartedSinceStop [] := by
    simp [StartedSinceStop]
  have hnetwork : h.network.Holds (h.besides (h.network.listeners ++ [])) h.network.links := by
    rw [Host.besides, unserved, List.append_nil]
    exact ⟨.refl _, .refl _⟩
  obtain ⟨b, hs, hb⟩ := stage_run ms (w := Site.around h)
    (.down idle.active idle.closing idle.running hnetwork) hnone
  rw [List.append_nil] at hs
  rw [List.nil_append] at hb
  refine ⟨hs.agreement hb, fun c outcome hstart => ?_, fun c outcome hstop => ?_⟩
  · rw [hs.live_iff]
    exact (hs.called c).start hstart
  · rw [hs.live_iff]
    exact (hs.called c).stop hstop

/-- A machine on which the device listens on port 502. -/
def quietMachine : Machine where
  isLocal := IpAddress.isLoopback
  lookup name := if name = "localhost" then some (.v4 127 0 0 1) else none

/-- A process on that machine. -/
def oneDevice : Host :=
  { network := { system := quietMachine.system, listeners := [⟨.v4 127 0 0 1, 502⟩] } }

/-- The machine when it has no workers left. -/
def withoutWorkers : System := { quietMachine.system with deniesWorkers := some .tooManyOpenFiles }

/-- The machine when connections are reset before they tell their other end. -/
def withoutPeers : System := { quietMachine.system with hidesPeer := fun _ => some .notConnected }

/-- A start that fails for want of workers, one that fails when both its sockets are open, one that
succeeds on a port that the machine chooses, and one after the connection to the device has broken
while a client is connected. -/
def fourStarts : List HostMove :=
  [ .rewire withoutWorkers, .call (.start "127.0.0.1" 0 "localhost" 502),
    .rewire withoutPeers, .call (.start "127.0.0.1" 0 "localhost" 502),
    .rewire quietMachine.system, .call (.start "127.0.0.1" 0 "localhost" 502),
    .input (.dial ⟨.v4 127 0 0 1, 40000⟩) (by simp), .turn .accept, .turn (.begin 0),
    .serveMetrics "localhost:9090",
    .input (.deviceEnds (.broken .connectionReset)) (by simp), .turn .route,
    .call (.startWith {}) ]

/-- The instance of the third start runs on, without its device, until it is stopped. -/
theorem lifecycle_of_fourStarts :
    let w := ((Site.around oneDevice).run fourStarts).1
    oneDevice.Idle ∧ oneDevice.metricsServer = none ∧ w.host.status.running = true ∧
      w.host.status.deviceUp = false ∧ (w.host.metrics.page "/ready").code = 200 ∧
      StartedSinceStop ((Site.around oneDevice).run fourStarts).2 ∧
      w.host.network.listeners.Perm
        [⟨.v4 127 0 0 1, 49152⟩, ⟨.v4 127 0 0 1, 9090⟩, ⟨.v4 127 0 0 1, 502⟩] ∧
      w.host.network.links.Perm [⟨.v4 127 0 0 1, 502⟩] ∧
      (∃ lines, (w.host.startWith {}).2 = w.host.sayAll lines) ∧
      w.host.stop.1 = .stopped := by
  intro w
  have idle : oneDevice.Idle := ⟨rfl, rfl, rfl⟩
  obtain ⟨hagreement, hstart, hstop⟩ := lifecycle idle rfl fourStarts
  have hrunning : w.host.status.running = true := by decide +kernel
  have hlive := hagreement.status.mp hrunning
  refine ⟨idle, rfl, hrunning, ?_, hagreement.ready.mpr hlive, hagreement.history.mpr hlive,
    hagreement.listeners.trans ?_, hagreement.links.trans ?_,
    (hstart (.startWith {}) _ rfl).2 hlive, (hstop .stop _ rfl).mpr hlive⟩
  · decide +kernel
  · have haddresses : w.host.liveAddresses ++ w.host.besides w.others =
        [⟨.v4 127 0 0 1, 49152⟩, ⟨.v4 127 0 0 1, 9090⟩, ⟨.v4 127 0 0 1, 502⟩] := by
      decide +kernel
    rw [← haddresses]
  · have htargets : w.host.liveTargets ++ oneDevice.network.links = [⟨.v4 127 0 0 1, 502⟩] := by
      decide +kernel
    rw [← htargets]

end ModbusRelay
