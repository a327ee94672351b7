import ModbusRelay.Program
import ModbusRelay.Proofs.Host.Lifecycle

/-!
How a run of the program ends.

The program starts an instance by itself if it has a target; after that its control interface, if
there is one, starts and stops instances on request. In between the instance makes its moves, others
open and close listeners, the metrics server is bound, and the operating system changes the way in
which it answers. A run can fail in two places, at the start of the instance and at that of the
control interface, and otherwise it is completed. Each of these ends finds the process in one of its
two stages and leaves it in the lower one, so whatever has happened no instance is left
(`run_leaves_no_instance`).
-/

namespace ModbusRelay

/-! ## Those who listen besides the process -/

/-- Which other processes listen after a move. -/
def HostMove.othersAfter (others : List SocketAddress) : HostMove → List SocketAddress
  | .otherOpens a => a :: others
  | .otherCloses a => others.erase a
  | .call _ | .input .. | .turn _ | .rewire _ | .serveMetrics _ => others

/-- Which other processes listen after a list of moves. -/
def othersAfter (others : List SocketAddress) (ms : List HostMove) : List SocketAddress :=
  ms.foldl HostMove.othersAfter others

theorem Site.others_step (w : Site) (m : HostMove) :
    (w.step m).1.others = m.othersAfter w.others := by
  cases m with
  | otherCloses a =>
    simp only [Site.step, HostMove.othersAfter]
    split
    · rfl
    · next ha => exact (List.erase_of_not_mem ha).symm
  | _ => rfl

theorem Site.others_run (w : Site) (ms : List HostMove) :
    (w.run ms).1.others = othersAfter w.others ms := by
  induction ms generalizing w with
  | nil => rfl
  | cons m ms ih =>
    rw [othersAfter, List.foldl_cons, ← w.others_step m]
    exact ih (w.step m).1

theorem othersAfter_append (others : List SocketAddress) (ms ns : List HostMove) :
    othersAfter others (ms ++ ns) = othersAfter (othersAfter others ms) ns :=
  List.foldl_append

namespace Stage

variable {h : Host} {others own links : List SocketAddress} {b : Bool}

/-- The order of the others does not matter. -/
theorem perm {others' : List SocketAddress} (hs : Stage h others links b)
    (hperm : others.Perm others') : Stage h others' links b :=
  hs.congr rfl rfl rfl fun _ _ hn => hn.perm ((hperm.append_left _).append_left _)

/-- A stop finds an instance just if one runs, and leaves none. -/
theorem stopped (hs : Stage h others links b) :
    (h.stop.1 = .stopped ↔ b = true) ∧ Stage h.stop.2 others links false := by
  rcases hs.stop with ⟨rfl, hstop⟩ | ⟨rfl, h', hstop, hdown⟩
  · rw [hstop]
    exact ⟨by simp, hs⟩
  · rw [hstop]
    exact ⟨by simp, hdown⟩

theorem nothing_left (hs : Stage h others links false) :
    ¬h.Live ∧ h.Idle ∧ h.network.Holds (h.besides others) links := by
  have hlive := hs.live_iff
  cases hs with
  | down active closing running network =>
    exact ⟨by simp [hlive], ⟨active, closing, running⟩, network⟩

end Stage

/-! ## What happens around the program -/

/-- Is the move a call? -/
def HostMove.isCall : HostMove → Bool
  | .call _ => true
  | _ => false

/-- The process after some moves, given which other processes listen. -/
def Host.amid (others : List SocketAddress) (ms : List HostMove) (h : Host) : Host :=
  ((⟨h, others⟩ : Site).run ms).1.host

theorem Site.answers_of_no_call {ms : List HostMove} (h : ∀ m ∈ ms, m.isCall = false) (w : Site) :
    (w.run ms).2 = [] := by
  induction ms generalizing w with
  | nil => rfl
  | cons m ms ih =>
    have hnone : (w.step m).2 = [] := by
      have := h m List.mem_cons_self
      cases m with
      | call => cases this
      | otherCloses a =>
        simp only [Site.step]
        split <;> rfl
      | _ => rfl
    show (w.step m).2 ++ ((w.step m).1.run ms).2 = []
    rw [hnone, ih fun m' hm' => h m' (List.mem_cons_of_mem m hm')]
    rfl

namespace Stage

variable {h : Host} {others own links : List SocketAddress} {b : Bool}

/-- Moves lead from stage to stage, and without a call they stay in one. -/
theorem amid (hs : Stage h (others ++ own) links b) (ms : List HostMove) :
    ∃ b', Stage (h.amid others ms) (othersAfter others ms ++ own) links b' ∧
      ((∀ m ∈ ms, m.isCall = false) → b' = b) := by
  obtain ⟨answers, hb⟩ : ∃ answers, b = true ↔ StartedSinceStop answers := by
    cases b with
    | false => exact ⟨[], by simp [StartedSinceStop]⟩
    | true => exact ⟨[.start (.ok .started)], iff_of_true rfl ⟨[], _, [], rfl, rfl, by simp⟩⟩
  obtain ⟨b', hs', hb'⟩ := stage_run ms (w := ⟨h, others⟩) hs hb
  rw [Site.others_run] at hs'
  refine ⟨b', hs', fun hnone => Bool.eq_iff_iff.mpr ?_⟩
  rw [hb', Site.answers_of_no_call hnone, List.append_nil, hb]

/-- Moves without a call, when no control interface is there yet. -/
theorem amid_of_no_call (hs : Stage h others links b) {ms : List HostMove}
    (hnone : ∀ m ∈ ms, m.isCall = false) :
    Stage (h.amid others ms) (othersAfter others ms) links b := by
  have hs : Stage h (others ++ []) links b := by rwa [List.append_nil]
  obtain ⟨b', hs', hsame⟩ := hs.amid ms
  obtain rfl := hsame hnone
  rwa [List.append_nil] at hs'

/-- A control interface that is served listens, too. -/
theorem serveControl {h' : Host} (hs : Stage h others links b) {address : String}
    {a : SocketAddress} (hserve : h.serveControl address = .ok (a, h')) :
    h'.network.system = h.network.system ∧ Stage h' (others ++ [a]) links b := by
  unfold Host.serveControl at hserve
  split at hserve
  · cases hserve
  · next hbind =>
    cases hserve
    obtain rfl := Network.bind_eq_ok hbind
    exact ⟨rfl, ((hs.listens a).perm (List.perm_append_singleton a others).symm).say _⟩

end Stage

/-! ## The parts of a run -/

namespace Program

variable (o : Options) (n : Network)

/-- The process when an instance is to be started. -/
def prepared (before : List HostMove) : Host := (ready o n).amid n.listeners before

/-- The error of the start at once, if the command line names a target. -/
def startError? (before : List HostMove) : Option RelayError :=
  match o.target, ((prepared o n before).startWith o.template).1 with
  | some _, .error e => some e
  | _, _ => none

/-- The process when its control interface is to be started. -/
def opened (before early : List HostMove) : Host :=
  (startTarget o (prepared o n before)).2.amid (othersAfter n.listeners before) early

/-- The error of the control interface, if it is wanted. -/
def controlError? (before early : List HostMove) : Option RelayError :=
  match o.controlEnabled, (opened o n before early).serveControl o.controlAddress with
  | true, .error e => some e
  | _, _ => none

/-- A run that begins so many seconds after the machine ends beyond the end of the clock. -/
def TooLong (uptime : Nat) : Prop :=
  ∃ seconds, o.runSeconds = some seconds ∧ clockEnd ≤ uptime + seconds

/-- The process at first: nothing of it is there. -/
theorem stage_ready : Stage (ready o n) n.listeners n.links false := by
  have hready : Stage (host o n) n.listeners n.links false := .down rfl rfl rfl ⟨.refl _, .refl _⟩
  unfold ready
  cases metricsLine? o with
  | none => exact hready.say _
  | some line => exact (hready.say line).say _

variable {o n} {h : Host} {others links : List SocketAddress} {b : Bool}
  {before early : List HostMove}

/-- Either the start fails and leaves nothing, or an instance runs just if there is a target. -/
theorem startTarget_cases (hbefore : ∀ m ∈ before, m.isCall = false) :
    (∃ e h, startError? o n before = some e ∧ startTarget o (prepared o n before) = (.error e, h) ∧
      Stage h (othersAfter n.listeners before) n.links false) ∨
    ∃ h, startError? o n before = none ∧ startTarget o (prepared o n before) = (.ok (), h) ∧
      Stage h (othersAfter n.listeners before) n.links o.target.isSome := by
  have hs : Stage (prepared o n before) (othersAfter n.listeners before) n.links false :=
    (stage_ready o n).amid_of_no_call hbefore
  unfold startError? startTarget
  cases o.target with
  | none => exact .inr ⟨_, rfl, rfl, hs⟩
  | some target =>
    rcases hs.startWith o.template with ⟨-, e, h, hstart, hdown⟩ | ⟨-, h, hstart, hup⟩ | ⟨hb, -⟩
    · exact .inl ⟨e, h, by rw [hstart], by rw [hstart]; rfl, hdown⟩
    · exact .inr ⟨h, by rw [hstart], by rw [hstart]; rfl, hup⟩
    · cases hb

/-- Either the control interface cannot be bound and everything is stopped, or it listens if it is
wanted. -/
theorem startControl_cases (hs : Stage (opened o n before early) others links b) :
    (∃ e, controlError? o n before early = some e ∧
      startControl o (opened o n before early) =
        (.error e, (opened o n before early).stop.2)) ∨
    ∃ control h, controlError? o n before early = none ∧
      startControl o (opened o n before early) = (.ok control, h) ∧
      h.network.system = (opened o n before early).network.system ∧
      Stage h (others ++ control.toList) links b := by
  unfold controlError? startControl
  cases o.controlEnabled with
  | false =>
    refine .inr ⟨none, _, rfl, rfl, rfl, ?_⟩
    rw [Option.toList_none, List.append_nil]
    exact hs.say _
  | true =>
    rw [if_pos rfl]
    cases hserve : (opened o n before early).serveControl o.controlAddress with
    | error e => exact .inl ⟨e, rfl, rfl⟩
    | ok served =>
      obtain ⟨a, h⟩ := served
      exact .inr ⟨some a, h, rfl, rfl, hs.serveControl hserve⟩

/-- At the end of a run nothing is left but the others who listen. -/
theorem finish_spec {control : Option SocketAddress}
    (hs : Stage h (others ++ control.toList) links b) :
    Stage (finish control h) others links false := by
  have hclosed : Stage (control.elim h fun a =>
      { h with network := h.network.release a }.say ⟨.debug, "Control API stopped", []⟩)
      others links b := by
    cases control with
    | none => rwa [Option.toList_none, List.append_nil] at hs
    | some a =>
      have hperm := (List.perm_append_singleton a others).erase a
      rw [List.erase_cons_head] at hperm
      exact ((hs.releases (by simp)).perm hperm).say _
  have hdown := hclosed.stopped.2
  unfold finish
  dsimp only
  split
  · exact (hdown.say _).say _
  · exact hdown.say _

/-- The run that has been started: it crashes if it is too long, and else it is completed when its
time is over. -/
theorem runStarted_cases (hs : Stage h others links b) (control : Option SocketAddress)
    (service : Host → Host) :
    (TooLong o h.network.system.uptime ∧ (runStarted o control service h).1 = .crashed) ∨
      ¬TooLong o h.network.system.uptime ∧ ∃ h', Stage h' others links b ∧
        runStarted o control service h = (.completed, finish control (service h')) := by
  unfold runStarted TooLong
  extract_lets h₁ h₂
  obtain ⟨hs₂, hnetwork⟩ : Stage h₂ others links b ∧ h₂.network = h.network := by
    unfold h₂ h₁
    split
    · exact ⟨(hs.say _).say _, rfl⟩
    · exact ⟨hs.say _, rfl⟩
  rw [hnetwork]
  cases o.runSeconds with
  | none => exact .inr ⟨by simp, h₂, hs₂, rfl⟩
  | some seconds =>
    by_cases hlong : clockEnd ≤ h.network.system.uptime + seconds
    · exact .inl ⟨⟨seconds, rfl, hlong⟩, by simp [hlong]⟩
    · exact .inr ⟨by simpa using hlong, _, hs₂.say _, if_neg hlong⟩

/-! ## The end of a run -/

variable (o n)

/-- A run of the program amid the moves of everybody: `before` the start of an instance, `early`
between that and the start of the control interface, and `late` until its time is over. -/
def runAmid (before early late : List HostMove) : RunEnd × Host :=
  runWith o n (Host.amid n.listeners before) (Host.amid (othersAfter n.listeners before) early)
    fun _ => Host.amid (othersAfter n.listeners (before ++ early)) late

/-- The moves that are made before the run ends. -/
def movesUntilEnd (before early late : List HostMove) : List HostMove :=
  match startError? o n before, controlError? o n before early with
  | some _, _ => before
  | none, some _ => before ++ early
  | none, none => before ++ early ++ late

/-- A run whose program has started is completed, and nothing is left of it, unless it is too
long. -/
theorem runStarted_amid {control : Option SocketAddress}
    (hs : Stage h (others ++ control.toList) links b) (late : List HostMove) :
    let r := runStarted o control (Host.amid others late) h
    (r.1 = .crashed ∧ TooLong o h.network.system.uptime) ∨
      r.1 = .completed ∧ ¬TooLong o h.network.system.uptime ∧
        Stage r.2 (othersAfter others late) links false := by
  intro r
  rcases runStarted_cases (o := o) hs control (Host.amid others late) with
    ⟨hlong, hcrashed⟩ | ⟨hshort, h', hs', hrun⟩
  · exact .inl ⟨hcrashed, hlong⟩
  · rw [show r = _ from hrun]
    obtain ⟨b', hserved, -⟩ := hs'.amid late
    exact .inr ⟨rfl, hshort, finish_spec hserved⟩

/-- **No instance outlives the run.** Take any options and any network, whatever the operating system
answers when workers, a listener or a connection are wanted, and let the instance and those around
it make any moves, and the control interface get any requests, until the run is over. The run ends
with an error just if the start of an instance at once fails, or the control interface cannot be
bound, and in the second case the instance that was started is stopped. However it ends, unless its
end lies beyond that of the clock, no instance is live or being stopped, the gauge of running
instances is 0, no connection to a device is left, and of the program at most the metrics server
listens. -/
theorem run_leaves_no_instance (o : Options) (n : Network) {before early : List HostMove}
    (hbefore : ∀ m ∈ before, m.isCall = false) (hearly : ∀ m ∈ early, m.isCall = false)
    (late : List HostMove) :
    let r := runAmid o n before early late
    (∀ e, r.1 = .failed e ↔ startError? o n before = some e ∨
      startError? o n before = none ∧ controlError? o n before early = some e) ∧
    (r.1 = .crashed ↔ startError? o n before = none ∧ controlError? o n before early = none ∧
      TooLong o (opened o n before early).network.system.uptime) ∧
    (r.1 ≠ .crashed → ¬r.2.Live ∧ r.2.Idle ∧
      r.2.network.Holds
        (r.2.besides (othersAfter n.listeners (movesUntilEnd o n before early late))) n.links) ∧
    ∀ e, startError? o n before = none → controlError? o n before early = some e →
      r.2 = (opened o n before early).stop.2 ∧
        ((opened o n before early).stop.1 = .stopped ↔ o.target.isSome = true) := by
  intro r
  rcases startTarget_cases (o := o) (n := n) hbefore with
    ⟨e, h, herror, hstart, hs⟩ | ⟨h, herror, hstart, hs⟩
  · unfold prepared at hstart
    have hr : r = (.failed e, h) := by simp only [r, runAmid, runWith, hstart]
    rw [hr, movesUntilEnd, herror]
    exact ⟨by simp [eq_comm], by simp, fun _ => hs.nothing_left, by simp⟩
  have heq : opened o n before early = h.amid (othersAfter n.listeners before) early := by
    rw [opened, hstart]
  unfold prepared at hstart
  have hopened := hs.amid_of_no_call hearly
  rw [← heq] at hopened
  rcases startControl_cases hopened with
    ⟨e, hcause, hcontrol⟩ | ⟨control, h', hcause, hcontrol, hsystem, hserved⟩
  · have hr : r = (.failed e, (opened o n before early).stop.2) := by
      simp only [r, runAmid, runWith, hstart, ← heq, hcontrol]
    obtain ⟨hstopped, hdown⟩ := hopened.stopped
    rw [hr, movesUntilEnd, herror, hcause]
    refine ⟨by simp, by simp, fun _ => ?_, fun _ _ _ => ⟨rfl, hstopped⟩⟩
    dsimp only
    rw [othersAfter_append]
    exact hdown.nothing_left
  · have hr : r = runStarted o control
        (Host.amid (othersAfter n.listeners (before ++ early)) late) h' := by
      simp only [r, runAmid, runWith, hstart, ← heq, hcontrol]
    rw [herror, hcause, ← hsystem]
    rw [← othersAfter_append] at hserved
    rcases runStarted_amid o hserved late with ⟨hend, hlong⟩ | ⟨hend, hshort, hdown⟩
    · rw [← hr] at hend
      exact ⟨by simp [hend], by simp [hend, hlong], fun hnot => absurd hend hnot, by simp⟩
    · rw [← hr] at hend hdown
      refine ⟨by simp [hend], by simp [hend, hshort], fun _ => ?_, by simp⟩
      rw [movesUntilEnd, herror, hcause]
      dsimp only
      rw [othersAfter_append]
      exact hdown.nothing_left

/-- The metrics server is bound. -/
def metricsMoves : List HostMove := (o.metricsAddress.map .serveMetrics).toList

/-- The requests that the control interface gets, if there is one. -/
def requested (requests : List HttpRequest) : List HostMove :=
  if o.controlEnabled then requests.map fun q => .call (.request q) else []

theorem serve_some (a : SocketAddress) (others : List SocketAddress)
    (requests : List HttpRequest) : (fun h => serve (some a) h requests) =
      Host.amid others (requests.map fun q => .call (.request q)) := by
  funext h
  induction requests generalizing h with
  | nil => rfl
  | cons q requests ih => exact ih (h.respond q).2

/-- A run in which nothing happens but requests is one of those. -/
theorem run_eq_runAmid (requests : List HttpRequest) :
    run o n requests = runAmid o n (metricsMoves o) [] (requested o requests) := by
  have hnothing (others : List SocketAddress) : Host.amid others [] = id := rfl
  have hmetrics : bindMetrics o = Host.amid n.listeners (metricsMoves o) := by
    unfold bindMetrics metricsMoves
    cases o.metricsAddress <;> rfl
  simp only [run, runAmid, runWith, hnothing, hmetrics, id_eq]
  rcases startTarget o _ with ⟨e | _, h⟩
  · rfl
  unfold startControl requested
  cases o.controlEnabled with
  | false => rfl
  | true =>
    simp only [if_true]
    cases h.serveControl o.controlAddress with
    | error e => rfl
    | ok served =>
      obtain ⟨a, h'⟩ := served
      exact congrArg (runStarted o (some a) · h') (serve_some a _ requests)

/-- The program starts an instance on a port that the machine chooses, and then its control
interface. -/
def servedAt (control : String) : Options :=
  { target := some "localhost:502"
    listen := "127.0.0.1:0"
    controlAddress := control
    metricsAddress := some "localhost:9090"
    runSeconds := some 3 }

/-- A client comes, the metrics server is bound, and somebody else begins to listen. -/
def beforeControl : List HostMove :=
  [.input (.dial ⟨.v4 127 0 0 1, 40000⟩) nofun, .turn .accept,
    .serveMetrics "localhost:9090", .otherOpens ⟨.v4 127 0 0 1, 9000⟩]

/-- The instance is stopped on request, and another one is started. -/
def whileServing : List HostMove :=
  [.turn (.begin 0), .call (.request ⟨"POST", "/api/proxy/stop", []⟩),
    .otherCloses ⟨.v4 127 0 0 1, 502⟩, .otherOpens ⟨.v4 127 0 0 1, 503⟩,
    .call (.request
      ⟨"POST", "/api/proxy/start",
        "\x7b\"target_host\":\"127.0.0.1\",\"target_port\":503\x7d".toUTF8.toList⟩)]

/-- One run is completed, one fails because its own instance listens where the control interface
should, and one because there are no workers for the instance. Of none an instance is left. -/
theorem run_of_servedAt :
    let r := runAmid (servedAt "127.0.0.1:8080") oneDevice.network [] beforeControl whileServing
    let r' := runAmid (servedAt "127.0.0.1:49152") oneDevice.network [] beforeControl whileServing
    let r'' := runAmid (servedAt "127.0.0.1:8080") oneDevice.network [.rewire withoutWorkers]
      beforeControl whileServing
    r.1 ≠ .crashed ∧ ¬r.2.Live ∧ r.2.metrics.running = 0 ∧
      r.2.network.Holds
        [⟨.v4 127 0 0 1, 9090⟩, ⟨.v4 127 0 0 1, 503⟩, ⟨.v4 127 0 0 1, 9000⟩] [] ∧
      r'.1 = .failed (.control "127.0.0.1:49152" "Address already in use (os error 98)") ∧
      ¬r'.2.Live ∧
      r'.2.network.Holds
        [⟨.v4 127 0 0 1, 9090⟩, ⟨.v4 127 0 0 1, 9000⟩, ⟨.v4 127 0 0 1, 502⟩] [] ∧
      r''.1 = .failed (.workers .tooManyOpenFiles) ∧ ¬r''.2.Live := by
  intro r r' r''
  have hnothing : ∀ m ∈ ([] : List HostMove), m.isCall = false := by simp
  have hrewire : ∀ m ∈ [HostMove.rewire withoutWorkers], m.isCall = false := by
    simp [HostMove.isCall]
  have hearly : ∀ m ∈ beforeControl, m.isCall = false := by
    simp [beforeControl, HostMove.isCall]
  obtain ⟨-, hcrashed, hleft, -⟩ := run_leaves_no_instance (servedAt "127.0.0.1:8080")
    oneDevice.network hnothing hearly whileServing
  obtain ⟨hfailed, -, hleft', -⟩ := run_leaves_no_instance (servedAt "127.0.0.1:49152")
    oneDevice.network hnothing hearly whileServing
  obtain ⟨hfailed', -, hleft'', -⟩ := run_leaves_no_instance (servedAt "127.0.0.1:8080")
    oneDevice.network hrewire hearly whileServing
  have hnot : r.1 ≠ .crashed := by
    rw [ne_eq, hcrashed]
    rintro ⟨-, -, seconds, ⟨⟩, hlong⟩
    revert hlong
    decide +kernel
  have herror : r'.1 =
      .failed (.control "127.0.0.1:49152" "Address already in use (os error 98)") :=
    (hfailed _).mpr (.inr (by decide +kernel))
  have herror' : r''.1 = .failed (.workers .tooManyOpenFiles) :=
    (hfailed' _).mpr (.inl (by decide +kernel))
  obtain ⟨hlive, hidle, hheld⟩ := hleft hnot
  obtain ⟨hlive', -, hheld'⟩ := hleft' (by rw [herror]; simp)
  obtain ⟨hlive'', -, -⟩ := hleft'' (by rw [herror']; simp)
  refine ⟨hnot, hlive, hidle.running, ⟨hheld.listeners.trans ?_, hheld.links⟩, herror, hlive',
    ⟨hheld'.listeners.trans ?_, hheld'.links⟩, herror', hlive''⟩
  · decide +kernel
  · decide +kernel

end Program

end ModbusRelay
