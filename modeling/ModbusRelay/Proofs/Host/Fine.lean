import ModbusRelay.Proofs.Host.Lifecycle

/-!
A process between the two steps of a stop.

A stop takes its instance out of the slot first and shuts it down afterwards, and other calls may
come in between, so runs here are made of `FineMove`s. Whatever happens, the instance in the slot
runs (`slotRuns_fineRun`), so a start never finds one that it has to shut down before it can fail.
And nothing that a process does depends on what it has logged: with more lines logged before, it
gives the same answers and comes to the same state (`fineRun_after`).
-/

namespace ModbusRelay

/-! ## Fine moves -/

/-- One thing that happens to a process or around it, with the two steps of a stop one by one. -/
inductive FineMove where
  | whole (m : HostMove)
  | beginStop
  | finishStop (k : Nat)
  /-- One of the instances that are being stopped makes a move. -/
  | lingering (k : Nat) (m : Move)

/-- One of the instances that are being stopped makes a move. -/
def Host.withClosing (h : Host) (k : Nat) (m : Move) : Host :=
  match h.closing[k]? with
  | none => h
  | some i =>
    let (relay, events) := i.relay.move m
    { h with closing := h.closing.set k { i with relay } }.observe events

namespace Site

/-- A fine move, and the answer if it is a call. -/
def fineStep (w : Site) : FineMove → Site × List HostAnswer
  | .whole m => w.step m
  | .beginStop => ({ w with host := w.host.beginStop.2 }, [.stop w.host.beginStop.1])
  | .finishStop k => ({ w with host := w.host.finishStop k }, [])
  | .lingering k m => ({ w with host := w.host.withClosing k m }, [])

/-- The process after a list of fine moves, and the answers to the calls. -/
def fineRun (w : Site) : List FineMove → Site × List HostAnswer
  | [] => (w, [])
  | m :: ms =>
    let (w, answers) := w.fineStep m
    let (w, later) := fineRun w ms
    (w, answers ++ later)

end Site

/-! ## What is in the slot runs -/

namespace Host

/-- The instance in the slot, if there is one, runs. -/
def SlotRuns (h : Host) : Prop := ∀ i, h.active = some i → i.isRunning = true

variable {h h' : Host}

theorem SlotRuns.congr (hruns : h.SlotRuns) (active : h'.active = h.active) : h'.SlotRuns :=
  fun i hi => hruns i (active.symm.trans hi)

theorem slotRuns_of_none (active : h.active = none) : h.SlotRuns := by
  simp [SlotRuns, active]

/-- A start fails and changes nothing, or it finds an instance that runs, or it launches one that
goes on. -/
theorem SlotRuns.startWith_cases (hruns : h.SlotRuns) (s : Settings) :
    (∃ e, h.startWith s = (.error e, h)) ∨
      (∃ line, h.startWith s = (.ok .alreadyRunning, h.say line)) ∨
      ∃ i h', i.isRunning = true ∧ h.startWith s = (.ok .started, h') ∧ h'.active = some i := by
  unfold startWith
  split
  · rcases h.launch_cases s with hfailed | ⟨i, goesOn, hlaunch⟩
    · exact .inl hfailed
    · exact .inr (.inr ⟨i, _, by simp [Instance.isRunning, goesOn], hlaunch, rfl⟩)
  · next i active =>
    rw [if_pos (hruns i active)]
    exact .inr (.inl ⟨_, rfl⟩)

theorem SlotRuns.startWith (hruns : h.SlotRuns) (s : Settings) : (h.startWith s).2.SlotRuns := by
  rcases hruns.startWith_cases s with ⟨e, hstart⟩ | ⟨line, hstart⟩ | ⟨i, h', hi, hstart, active⟩
  · rwa [hstart]
  · rw [hstart]
    exact hruns
  · rw [hstart]
    intro j hj
    rwa [Option.some.inj (hj.symm.trans active)]

theorem active_finishStop (h : Host) (k : Nat) : (h.finishStop k).active = h.active := by
  unfold finishStop
  split <;> rfl

theorem active_withClosing (h : Host) (k : Nat) (m : Move) :
    (h.withClosing k m).active = h.active := by
  unfold withClosing
  split <;> rfl

theorem SlotRuns.beginStop (hruns : h.SlotRuns) : h.beginStop.2.SlotRuns := by
  unfold Host.beginStop
  split
  · exact hruns
  · exact slotRuns_of_none rfl

theorem SlotRuns.stop (hruns : h.SlotRuns) : h.stop.2.SlotRuns := by
  unfold Host.stop
  split
  next status taken hbegin =>
  have htaken : taken.SlotRuns := by
    have := hruns.beginStop
    rwa [hbegin] at this
  split
  · exact htaken
  · exact htaken.congr (taken.active_finishStop _)

/-- The line of a start that has failed. -/
def startFailure (cause : RelayError) : LogLine :=
  ⟨.warn, "Proxy start failed", [("error", .text cause.message)]⟩

/-- The settings that the text of a start request asks for, if it is one and names a target. -/
def settingsOf? (h : Host) (text : String) : Option Settings :=
  match StartRequest.parse (if (trimChars text.toList).isEmpty then "\x7b\x7d" else text) with
  | .error _ => none
  | .ok request =>
    match request.targetHost, request.targetPort with
    | some targetHost, some targetPort =>
      some (h.template.withParts request.listenHost request.listenPort targetHost targetPort)
    | _, _ => none

/-- A request for a start is turned down unread, or it starts with the settings it asks for. -/
theorem startRequested_cases (h : Host) (text : String) :
    (∃ reply, reply.code = 400 ∧ h.startRequested text = (reply, h)) ∨
      ∃ s, h.settingsOf? text = some s ∧
        ((∃ e h', h.startWith s = (.error e, h') ∧
          h.startRequested text = (.failed e, h'.say (startFailure e))) ∨
        ∃ status h', h.startWith s = (.ok status, h') ∧
          h.startRequested text = (.started status, h')) := by
  simp only [startRequested, settingsOf?, start]
  rcases StartRequest.parse _ with cause | request
  · exact .inl ⟨_, rfl, rfl⟩
  dsimp only
  rcases request.targetHost with _ | targetHost
  · exact .inl ⟨_, rfl, rfl⟩
  rcases request.targetPort with _ | targetPort
  · exact .inl ⟨_, rfl, rfl⟩
  refine .inr ⟨_, rfl, ?_⟩
  dsimp only
  rcases h.startWith _ with ⟨e | status, h'⟩
  · exact .inl ⟨e, h', rfl, rfl⟩
  · exact .inr ⟨status, h', rfl, rfl⟩

theorem SlotRuns.startRequested (hruns : h.SlotRuns) (text : String) :
    (h.startRequested text).2.SlotRuns := by
  rcases h.startRequested_cases text with ⟨reply, -, hrequested⟩ | ⟨s, -, houtcome⟩
  · rwa [hrequested]
  · have hstarted := hruns.startWith s
    rcases houtcome with ⟨e, h', hstart, hrequested⟩ | ⟨status, h', hstart, hrequested⟩
    · rw [hstart] at hstarted
      rw [hrequested]
      exact hstarted
    · rw [hstart] at hstarted
      rwa [hrequested]

theorem SlotRuns.control (hruns : h.SlotRuns) (q : HttpRequest) : (h.control q).2.SlotRuns := by
  have hruns : (h.say (requestLine q)).SlotRuns := hruns.congr rfl
  unfold Host.control Host.handle
  split
  · split
    · exact hruns.startRequested _
    · exact hruns
  · exact hruns.stop
  · exact hruns
  · exact hruns

theorem SlotRuns.call (hruns : h.SlotRuns) (c : HostCall) : (h.call c).2.SlotRuns := by
  cases c with
  | startWith s => exact hruns.startWith s
  | start listenHost listenPort targetHost targetPort => exact hruns.startWith _
  | stop => exact hruns.stop
  | status => exact hruns
  | request q => exact hruns.control q

theorem SlotRuns.serveMetrics (hruns : h.SlotRuns) (address : String) :
    (h.serveMetrics address).SlotRuns := by
  unfold Host.serveMetrics
  split
  · exact hruns
  · split <;> exact hruns.congr rfl

theorem SlotRuns.withRelay (hruns : h.SlotRuns) {m : Move} (hm : m ≠ .input .cancel) :
    (h.withRelay (·.move m)).SlotRuns := by
  unfold Host.withRelay
  split
  · exact hruns
  · next i active =>
    intro j hj
    obtain rfl : { i with relay := (i.relay.move m).1 } = j := Option.some.inj hj
    have hi := hruns i active
    unfold Instance.isRunning at hi ⊢
    rwa [i.relay.cancelled_move hm]

end Host

theorem slotRuns_fineStep {w : Site} (hruns : w.host.SlotRuns) (m : FineMove) :
    (w.fineStep m).1.host.SlotRuns := by
  cases m with
  | whole m =>
    cases m with
    | call c => exact hruns.call c
    | input i goesOn => exact hruns.withRelay (m := .input i) (by simpa using goesOn)
    | turn t => exact hruns.withRelay (m := .turn t) (by simp)
    | rewire | otherOpens => exact hruns
    | otherCloses a =>
      simp only [Site.fineStep, Site.step]
      split <;> exact hruns
    | serveMetrics address => exact hruns.serveMetrics address
  | beginStop => exact hruns.beginStop
  | finishStop k => exact hruns.congr (w.host.active_finishStop k)
  | lingering k m => exact hruns.congr (w.host.active_withClosing k m)

theorem slotRuns_fineRun {w : Site} (hruns : w.host.SlotRuns) (ms : List FineMove) :
    (w.fineRun ms).1.host.SlotRuns := by
  induction ms generalizing w with
  | nil => exact hruns
  | cons m ms ih => exact ih (slotRuns_fineStep hruns m)

/-! ## Nothing depends on the log -/

namespace Host

/-- The process with more that it has logged before. -/
def after (earlier : List LogLine) (h : Host) : Host := { h with log := earlier ++ h.log }

variable (h : Host) (earlier : List LogLine)

@[simp]
theorem after_active : (h.after earlier).active = h.active := rfl

@[simp]
theorem after_closing : (h.after earlier).closing = h.closing := rfl

@[simp]
theorem after_network : (h.after earlier).network = h.network := rfl

@[simp]
theorem after_template : (h.after earlier).template = h.template := rfl

@[simp]
theorem after_metricsServer : (h.after earlier).metricsServer = h.metricsServer := rfl

theorem say_after (line : LogLine) : (h.after earlier).say line = (h.say line).after earlier := by
  simp only [say, after, List.append_assoc]

theorem observe_after (events : List RelayEvent) :
    (h.after earlier).observe events = (h.observe events).after earlier := by
  simp only [observe, after, List.append_assoc]

theorem shutDown_after (i : Instance) :
    (h.after earlier).shutDown i = (h.shutDown i).after earlier :=
  observe_after { h with network := i.leave h.network } earlier _

theorem launch_after (s : Settings) :
    (h.after earlier).launch s = Prod.map id (after earlier) (h.launch s) := by
  simp only [launch, after_network]
  rcases h.network.system.deniesWorkers with _ | cause
  · rcases Instance.launch s h.network with ⟨_ | i, network⟩
    · rfl
    · exact congrArg (Prod.mk _) (observe_after { h with network, active := some i } earlier _)
  · rfl

theorem startWith_after (s : Settings) :
    (h.after earlier).startWith s = Prod.map id (after earlier) (h.startWith s) := by
  simp only [startWith, after_active]
  rcases h.active with _ | i
  · exact h.launch_after earlier s
  · dsimp only
    split
    · exact congrArg (Prod.mk _) (h.say_after earlier _)
    · have hshut := shutDown_after { h with active := none } earlier i
      exact (congrArg (launch · s) hshut).trans (launch_after _ earlier s)

theorem beginStop_after :
    (h.after earlier).beginStop = Prod.map id (after earlier) h.beginStop := by
  simp only [beginStop, after_active]
  cases h.active <;> rfl

theorem finishStop_after (k : Nat) :
    (h.after earlier).finishStop k = (h.finishStop k).after earlier := by
  simp only [finishStop, after_closing]
  rcases h.closing[k]? with _ | i
  · rfl
  · exact shutDown_after { h with closing := h.closing.eraseIdx k } earlier i

theorem stop_after : (h.after earlier).stop = Prod.map id (after earlier) h.stop := by
  simp only [stop, beginStop_after, after_closing]
  rcases h.beginStop with ⟨_ | _, taken⟩
  · exact congrArg (Prod.mk _) (taken.finishStop_after earlier _)
  · rfl

theorem startRequested_after (text : String) :
    (h.after earlier).startRequested text = Prod.map id (after earlier) (h.startRequested text) := by
  simp only [startRequested, start, after_template, startWith_after]
  rcases StartRequest.parse _ with cause | request
  · rfl
  dsimp only
  rcases request.targetHost with _ | targetHost
  · rfl
  rcases request.targetPort with _ | targetPort
  · rfl
  dsimp only
  rcases h.startWith _ with ⟨cause | status, h'⟩
  · exact congrArg (Prod.mk _) (h'.say_after earlier _)
  · rfl

theorem handle_after (q : HttpRequest) :
    (h.after earlier).handle q = Prod.map id (after earlier) (h.handle q) := by
  obtain ⟨method, path, body⟩ := q
  simp only [handle, startRequested_after, stop_after]
  split
  · split <;> rfl
  · rfl
  · rfl
  · rfl

theorem control_after (q : HttpRequest) :
    (h.after earlier).control q = Prod.map id (after earlier) (h.control q) := by
  rw [control, say_after, handle_after]
  rfl

theorem serveMetrics_after (address : String) :
    (h.after earlier).serveMetrics address = (h.serveMetrics address).after earlier := by
  simp only [serveMetrics, after_metricsServer, after_network]
  rcases h.metricsServer with _ | a
  · rcases h.network.bind address with cause | ⟨a, network⟩
    · exact h.say_after earlier _
    · exact say_after { h with network, metricsServer := some a } earlier _
  · rfl

theorem call_after (c : HostCall) :
    (h.after earlier).call c = Prod.map id (after earlier) (h.call c) := by
  cases c with
  | startWith s => simp only [call, startWith_after]; rfl
  | start listenHost listenPort targetHost targetPort =>
    simp only [call, start, after_template, startWith_after]; rfl
  | stop => simp only [call, stop_after]; rfl
  | status => rfl
  | request q => simp only [call, control_after]; rfl

theorem withRelay_after (moves : Relay → Relay.Outcome) :
    (h.after earlier).withRelay moves = (h.withRelay moves).after earlier := by
  simp only [withRelay, after_active]
  rcases h.active with _ | i
  · rfl
  · exact observe_after { h with active := some { i with relay := (moves i.relay).1 } } earlier _

theorem withClosing_after (k : Nat) (m : Move) :
    (h.after earlier).withClosing k m = (h.withClosing k m).after earlier := by
  simp only [withClosing, after_closing]
  rcases h.closing[k]? with _ | i
  · rfl
  · exact observe_after
      { h with closing := h.closing.set k { i with relay := (i.relay.move m).1 } } earlier _

end Host

namespace Site

/-- The same process with more that it has logged before. -/
def after (earlier : List LogLine) (w : Site) : Site := { w with host := w.host.after earlier }

variable (w : Site) (earlier : List LogLine)

theorem step_after (m : HostMove) :
    (w.after earlier).step m = Prod.map (after earlier) id (w.step m) := by
  cases m with
  | call c => simp only [step, after, Host.call_after]; rfl
  | input | turn => simp only [step, after, Host.withRelay_after]; rfl
  | rewire | otherOpens => rfl
  | otherCloses a =>
    simp only [step]
    show (if a ∈ w.others then _ else _) = _
    split <;> rfl
  | serveMetrics address => simp only [step, after, Host.serveMetrics_after]; rfl

theorem fineStep_after (m : FineMove) :
    (w.after earlier).fineStep m = Prod.map (after earlier) id (w.fineStep m) := by
  cases m with
  | whole m => exact w.step_after earlier m
  | beginStop => simp only [fineStep, after, Host.beginStop_after]; rfl
  | finishStop k => simp only [fineStep, after, Host.finishStop_after]; rfl
  | lingering k m => simp only [fineStep, after, Host.withClosing_after]; rfl

theorem fineRun_after (ms : List FineMove) :
    (w.after earlier).fineRun ms = Prod.map (after earlier) id (w.fineRun ms) := by
  induction ms generalizing w with
  | nil => rfl
  | cons m ms ih =>
    simp only [fineRun, fineStep_after, Prod.map_fst, Prod.map_snd, id_eq, ih]
    rfl

end Site

end ModbusRelay
