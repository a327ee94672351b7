import ModbusRelay.Proofs.Host.Fine

/-!
Requests to the control interface that are refused or fail.

Only a start can fail after it has done something, and a launch that fails gives back the sockets
that it has opened. So a request that is not answered with code 200 leaves the process as it was, up
to the lines by which it and a start that has failed are logged (`Host.SlotRuns.refused`), and
everything later goes as if it had not been made (`refused_requests_change_nothing`).
-/

namespace ModbusRelay

/-! ## How a start fails -/

/-- The device could not be reached. -/
def RelayError.ofDevice : RelayError → Bool
  | .connect .. | .connectTimeout .. => true
  | _ => false

/-- A new socket did not tell its address. -/
def RelayError.ofSocket : RelayError → Bool
  | .io _ => true
  | _ => false

theorem RelayError.isStartup_of_ofDevice {e : RelayError} (h : e.ofDevice = true) :
    e.isStartup = true := by
  cases e <;> first | rfl | cases h

namespace Instance

variable {s : Settings} {n : Network} {e : RelayError}

/-- Of the settings only the address matters for the listener. -/
theorem openListener_congr {s' : Settings} (h : s'.listen = s.listen) (n : Network) :
    openListener s' n = openListener s n := by
  unfold openListener
  rw [h]

theorem openListener_eq_error (h : (openListener s n).1 = .error e) :
    (∃ cause, e = .bind s.listen cause) ∨ e.ofSocket = true := by
  unfold openListener at h
  split at h
  · cases h
    exact .inl ⟨_, rfl⟩
  · split at h <;> cases h
    exact .inr rfl

theorem connectDevice_eq_error (h : (connectDevice s n).1 = .error e) :
    e.ofDevice = true ∨ e.ofSocket = true := by
  unfold connectDevice at h
  split at h
  · cases h
    exact .inl rfl
  · cases h
    exact .inl rfl
  · split at h <;> cases h
    exact .inr rfl

/-- A launch fails for the listener, or for the device after the listener has been opened. -/
theorem launch_fails (h : (launch s n).1 = .error e) :
    (openListener s n).1 = .error e ∧
        ((∃ cause, e = .bind s.listen cause) ∨ e.ofSocket = true) ∨
      (∃ listen, (openListener s n).1 = .ok listen) ∧
        (e.ofDevice = true ∨ e.ofSocket = true) := by
  unfold launch at h
  split at h
  · next e' _ hopen =>
    cases h
    have hfailed : (openListener s n).1 = .error e := by rw [hopen]
    exact .inl ⟨hfailed, openListener_eq_error hfailed⟩
  · next listen bound hopen =>
    split at h
    · next hconnect =>
      cases h
      exact .inr ⟨⟨listen, by rw [hopen]⟩, connectDevice_eq_error (by rw [hconnect])⟩
    · cases h

/-- A launch does not fail for a listener that can be opened. -/
theorem launch_ne_bind {listen : SocketAddress} (h : (openListener s n).1 = .ok listen)
    (address : String) (cause : IoError) : (launch s n).1 ≠ .error (.bind address cause) := by
  intro hbind
  rcases launch_fails hbind with ⟨hfailed, -⟩ | ⟨-, hdevice | hsocket⟩
  · rw [h] at hfailed
    cases hfailed
  · cases hdevice
  · cases hsocket

end Instance

namespace Host

variable {h : Host}

/-- How a start can fail. -/
theorem SlotRuns.startWith_fails (hruns : h.SlotRuns) {s : Settings} {e : RelayError}
    (hstart : (h.startWith s).1 = .error e) :
    (∃ cause, e = .workers cause) ∨ (Instance.launch s h.network).1 = .error e := by
  unfold Host.startWith at hstart
  split at hstart
  · unfold launch at hstart
    split at hstart
    · cases hstart
      exact .inl ⟨_, rfl⟩
    · split at hstart
      · next heq =>
        cases hstart
        exact .inr (congrArg Prod.fst heq)
      · cases hstart
  · next i active =>
    rw [if_pos (hruns i active)] at hstart
    cases hstart

/-- What a start comes to does not depend on what is logged before it. -/
theorem startWith_say (h : Host) (line : LogLine) (s : Settings) :
    ((h.say line).startWith s).1 = (h.startWith s).1 := by
  -- Both are the process that has logged nothing, with the one or the other lines before.
  have hbase (log : List LogLine) : (startWith { h with log } s).1 =
      (startWith { h with log := [] } s).1 := by
    have hafter := congrArg Prod.fst (startWith_after { h with log := [] } log s)
    rwa [after, List.append_nil] at hafter
  exact (hbase _).trans (hbase h.log).symm

end Host

/-! ## What a request leaves that is not answered with 200 -/

/-- Two processes differ in nothing but what they have logged. -/
def SameButLog (h h' : Host) : Prop := h' = { h with log := h'.log }

/-- A process is as it was, but has logged some lines more. -/
structure Unchanged (h h' : Host) (lines : List LogLine) : Prop where
  status : h'.status = h.status
  listeners : h'.network.listeners = h.network.listeners
  /-- The connections to devices. -/
  links : h'.network.links = h.network.links
  /-- The instance in the slot, with its connection to the device and those of its clients. -/
  active : h'.active = h.active
  /-- The same of the instances that are being stopped. -/
  closing : h'.closing = h.closing
  metrics : h'.metrics = h.metrics
  log : h'.log = h.log ++ lines
  rest : SameButLog h h'

/-- The lines with which an answer is logged. -/
def ControlReply.logLines : ControlReply → List LogLine
  | .failed cause => [Host.startFailure cause]
  | _ => []

theorem ControlReply.logLines_eq_nil {reply : ControlReply} (h : reply.code ≠ 500) :
    reply.logLines = [] := by
  cases reply with
  | failed => exact absurd rfl h
  | _ => rfl

namespace Host

/-- The settings that a request to start asks for. -/
def asksFor? (h : Host) (q : HttpRequest) : Option Settings :=
  (String.fromUTF8? q.body.toByteArray).bind h.settingsOf?

variable {h : Host}

/-- A process that has only logged something is unchanged. -/
theorem unchanged_sayAll (h : Host) (lines : List LogLine) : Unchanged h (h.sayAll lines) lines :=
  ⟨rfl, rfl, rfl, rfl, rfl, rfl, rfl, rfl⟩

/-- What is done about a request that is not answered with 200 changes nothing, but a start that has
failed is logged. -/
theorem SlotRuns.refused_handle (hruns : h.SlotRuns) {q : HttpRequest}
    (hcode : (h.handle q).1.code ≠ 200) :
    (h.handle q).2 = h.sayAll (h.handle q).1.logLines ∧
      ∀ e, (h.handle q).1 = .failed e →
        ∃ s, h.asksFor? q = some s ∧ h.startWith s = (.error e, h) := by
  have hturned {reply : ControlReply} (hreply : reply.code ≠ 500) :
      h = h.sayAll reply.logLines ∧
        ∀ e, reply = .failed e →
          ∃ s, h.asksFor? q = some s ∧ h.startWith s = (.error e, h) := by
    rw [ControlReply.logLines_eq_nil hreply, sayAll_nil]
    refine ⟨rfl, ?_⟩
    rintro e rfl
    exact absurd rfl hreply
  revert hcode
  unfold Host.handle
  split <;> intro hcode
  · revert hcode
    split <;> intro hcode
    · next text htext =>
      rcases h.startRequested_cases text with
        ⟨reply, hreply, hrequested⟩ |
        ⟨s, hs, ⟨e, h', hstart, hrequested⟩ | ⟨status, h', -, hrequested⟩⟩
      · rw [hrequested]
        exact hturned (by simp [hreply])
      · -- A start that fails has found the slot empty, so it has shut nothing down.
        obtain rfl : h' = h := by
          rcases hruns.startWith_cases s with ⟨_, hsame⟩ | ⟨_, hsame⟩ | ⟨_, _, -, hsame, -⟩ <;>
            rw [hsame] at hstart <;> cases hstart
          rfl
        rw [hrequested]
        refine ⟨rfl, ?_⟩
        rintro _ ⟨⟩
        exact ⟨s, by rw [asksFor?, htext, Option.bind_some, hs], hstart⟩
      · rw [hrequested] at hcode
        exact absurd rfl hcode
    · exact hturned (by simp [ControlReply.code])
  · exact absurd rfl hcode
  · exact absurd rfl hcode
  · exact hturned (by simp [ControlReply.code])

/-- The same with the line of the request. -/
theorem SlotRuns.refused (hruns : h.SlotRuns) {q : HttpRequest}
    (hcode : (h.control q).1.code ≠ 200) :
    (h.control q).2 = h.sayAll (requestLine q :: (h.control q).1.logLines) ∧
      ∀ e, (h.control q).1 = .failed e →
        ∃ s, h.asksFor? q = some s ∧ h.startWith s = (.error e, h) := by
  have hlogged : (h.say (requestLine q)).SlotRuns := hruns.congr rfl
  obtain ⟨hsame, hfailed⟩ := hlogged.refused_handle hcode
  refine ⟨hsame.trans (h.sayAll_say _ _), fun e he => ?_⟩
  obtain ⟨s, hs, hstart⟩ := hfailed e he
  refine ⟨s, hs, ?_⟩
  have herror : (h.startWith s).1 = .error e := by rw [← h.startWith_say (requestLine q), hstart]
  rcases hruns.startWith_cases s with ⟨_, hstart'⟩ | ⟨_, hstart'⟩ | ⟨_, _, -, hstart', -⟩ <;>
    rw [hstart'] at herror <;> cases herror
  exact hstart'

end Host

/-- With other lines logged before, everything goes the same way. -/
theorem Site.fineRun_sameButLog (w : Site) (lines : List LogLine) (later : List FineMove) :
    let w' : Site := ⟨{ w.host with log := lines }, w.others⟩
    (w'.fineRun later).2 = (w.fineRun later).2 ∧
      SameButLog (w.fineRun later).1.host (w'.fineRun later).1.host := by
  intro w'
  -- Both are the process that has logged nothing, with the one or the other lines before.
  have hbase (earlier : List LogLine) : Site.fineRun ⟨{ w.host with log := earlier }, w.others⟩
      later = Prod.map (Site.after earlier) id
        (Site.fineRun ⟨{ w.host with log := [] }, w.others⟩ later) := by
    rw [← Site.fineRun_after, Site.after, Host.after, List.append_nil]
  have hw : w.fineRun later = _ := hbase w.host.log
  have hw' : w'.fineRun later = _ := hbase lines
  rw [hw, hw']
  exact ⟨rfl, rfl⟩

/-- **Refused and failed requests change nothing.** Take a process that began without an instance,
in any state that it can come to, even amid a stop, and any request to its control interface that is
not answered with code 200. The status, the listeners, the connections to devices, the instances
with all their clients and the metrics are as before, and only the request and a start that has
failed are logged. Everything later goes as if the request had not been made. If the start had
opened its listener before it failed, as it has if the device is the cause, a later start can open
one at the same address again, whatever its other settings are. -/
theorem refused_requests_change_nothing {h₀ : Host} (empty : h₀.active = none)
    (ms : List FineMove) {q : HttpRequest} :
    let w := ((Site.around h₀).fineRun ms).1
    let reply := (w.host.control q).1
    let h' := (w.host.control q).2
    reply.code ≠ 200 →
      Unchanged w.host h' (Host.requestLine q :: reply.logLines) ∧
      (∀ later, (Site.fineRun ⟨h', w.others⟩ later).2 = (w.fineRun later).2 ∧
        SameButLog (w.fineRun later).1.host (Site.fineRun ⟨h', w.others⟩ later).1.host) ∧
      ∀ e, reply = .failed e → (e.isStartup = true ∨ e.ofSocket = true) ∧
        ∃ s, w.host.asksFor? q = some s ∧ w.host.startWith s = (.error e, w.host) ∧
          (e.ofDevice = true → ∃ listen,
            (Instance.openListener s w.host.network).1 = .ok listen) ∧
          ∀ listen bound, Instance.openListener s w.host.network = (.ok listen, bound) →
            ∀ s' : Settings, s'.listen = s.listen →
              Instance.openListener s' h'.network = (.ok listen, bound) ∧
                ∀ address cause, (h'.startWith s').1 ≠ .error (.bind address cause) := by
  intro w reply h' hcode
  have hruns : w.host.SlotRuns := slotRuns_fineRun (Host.slotRuns_of_none empty) ms
  obtain ⟨hsame, hfailed⟩ := hruns.refused hcode
  have hafter : h' = w.host.sayAll (Host.requestLine q :: reply.logLines) := hsame
  rw [hafter]
  refine ⟨w.host.unchanged_sayAll _, w.fineRun_sameButLog _, fun e he => ?_⟩
  obtain ⟨s, hs, hstart⟩ := hfailed e he
  have hagain (listen : SocketAddress) (bound : Network)
      (hopen : Instance.openListener s w.host.network = (.ok listen, bound)) (s' : Settings)
      (hs' : s'.listen = s.listen) :
      Instance.openListener s' w.host.network = (.ok listen, bound) ∧
        ∀ address cause, ((w.host.sayAll (Host.requestLine q :: reply.logLines)).startWith s').1 ≠
          .error (.bind address cause) := by
    have hopen' := (Instance.openListener_congr hs' _).trans hopen
    refine ⟨hopen', fun address cause hnot => ?_⟩
    have hruns' : Host.SlotRuns (w.host.sayAll (Host.requestLine q :: reply.logLines)) :=
      hruns.congr rfl
    rcases hruns'.startWith_fails hnot with ⟨_, hother⟩ | hlaunch
    · cases hother
    · exact Instance.launch_ne_bind (congrArg Prod.fst hopen') address cause hlaunch
  rcases hruns.startWith_fails (congrArg Prod.fst hstart) with ⟨cause, rfl⟩ | hlaunch
  · exact ⟨.inl rfl, s, hs, hstart, nofun, hagain⟩
  rcases Instance.launch_fails hlaunch with ⟨-, ⟨cause, rfl⟩ | hsocket⟩ | ⟨hopen, hcause⟩
  · exact ⟨.inl rfl, s, hs, hstart, nofun, hagain⟩
  · refine ⟨.inr hsocket, s, hs, hstart, fun hdevice => ?_, hagain⟩
    cases e with
    | io => cases hdevice
    | _ => cases hsocket
  · exact ⟨hcause.imp_left RelayError.isStartup_of_ofDevice, s, hs, hstart, fun _ => hopen, hagain⟩

/-- A request to start an instance for the device on port 502. -/
def startRequest : HttpRequest :=
  ⟨"POST", "/api/proxy/start",
    "\x7b\"target_host\":\"127.0.0.1\",\"target_port\":502\x7d".toUTF8.toList⟩

/-- An instance has a client, its stop has begun, and another client comes. Then new connections are
reset before they tell their other end. -/
def amidStop : List FineMove :=
  [ .whole (.call (.start "127.0.0.1" 5021 "127.0.0.1" 502)),
    .whole (.input (.dial ⟨.v4 127 0 0 1, 40001⟩) (by simp)), .whole (.turn .accept),
    .whole (.turn (.begin 0)), .beginStop, .lingering 0 (.input (.dial ⟨.v4 127 0 0 1, 40002⟩)),
    .lingering 0 (.turn .accept), .lingering 0 (.turn (.begin 1)),
    .whole (.rewire withoutPeers) ]

/-- A start is requested that fails when its listener and its connection are open, and then one on
the same address that succeeds; the instance that is being stopped listens and serves its clients
all the while. -/
theorem unchanged_of_amidStop :
    let w := ((Site.around oneDevice).fineRun amidStop).1
    let h' := (w.host.control startRequest).2
    (w.host.control startRequest).1 = .failed (.io .notConnected) ∧
      h'.network.listeners = [⟨.v4 127 0 0 1, 5021⟩, ⟨.v4 127 0 0 1, 502⟩] ∧
      h'.network.links = [⟨.v4 127 0 0 1, 502⟩] ∧
      h'.closing.length = 1 ∧ h'.metrics.running = 1 ∧ h'.metrics.clientsConnected = 2 ∧
      (∀ address cause, (h'.startWith { listen := "0.0.0.0:5020" }).1 ≠
        .error (.bind address cause)) ∧
      (Site.fineRun ⟨h', w.others⟩
        [.whole (.rewire quietMachine.system), .whole (.call (.request startRequest))]).2 =
          [.reply (.started .started)] := by
  intro w h'
  have hreply : (w.host.control startRequest).1 = .failed (.io .notConnected) := by
    decide +kernel
  have hcode : (w.host.control startRequest).1.code ≠ 200 := by
    rw [hreply]
    decide
  have empty : oneDevice.active = none := rfl
  obtain ⟨hsame, hlater, hfailed⟩ := refused_requests_change_nothing empty amidStop hcode
  obtain ⟨-, s, hs, -, -, hagain⟩ := hfailed _ hreply
  have hlisten : s.listen = "0.0.0.0:5020" := by
    have hasked : (w.host.asksFor? startRequest).map (·.listen) = some "0.0.0.0:5020" := by
      decide +kernel
    rw [hs] at hasked
    exact Option.some.inj hasked
  have hopen : ∃ listen bound, Instance.openListener s w.host.network = (.ok listen, bound) := by
    refine ⟨⟨.v4 0 0 0 0, 5020⟩, _, Prod.ext ?_ rfl⟩
    rw [Instance.openListener_congr (s := { listen := "0.0.0.0:5020" }) hlisten]
    decide +kernel
  obtain ⟨listen, bound, hopen⟩ := hopen
  refine ⟨hreply, hsame.listeners.trans ?_, hsame.links.trans ?_,
    (congrArg List.length hsame.closing).trans ?_, (congrArg Metrics.running hsame.metrics).trans ?_,
    (congrArg Metrics.clientsConnected hsame.metrics).trans ?_,
    (hagain listen bound hopen _ hlisten.symm).2, (hlater _).1.trans ?_⟩
  · decide +kernel
  · decide +kernel
  · decide +kernel
  · decide +kernel
  · decide +kernel
  · have hstarted : ((w.fineStep (.whole (.rewire quietMachine.system))).1.host.control
        startRequest).1 = .started .started := by decide +kernel
    exact congrArg (fun reply => [HostAnswer.reply reply]) hstarted

end ModbusRelay
