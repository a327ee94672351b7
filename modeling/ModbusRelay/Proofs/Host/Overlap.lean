import ModbusRelay.Proofs.Host.Fine

/-!
Starts that come in the middle of a stop.

A stop empties the slot first and shuts the instance down afterwards, and nothing keeps a start from
coming in between. Then two instances are live: the new one, and the one that is being stopped
(`start_amid_stop`). And when that one has been shut down, the gauge is lowered although the new one
runs on. As long as no start succeeds in the middle of a stop, there is one instance at most, and
the gauge tells whether there is one (`one_live_while_starts_apart`).

`Tally` is all that this is about, and `Shift` says once what a move can do to it.
-/

namespace ModbusRelay

/-- An instance has been started. -/
def Started (answers : List HostAnswer) : Prop := ∃ a ∈ answers, a.start? = some (.ok .started)

theorem started_singleton {a : HostAnswer} : Started [a] ↔ a.start? = some (.ok .started) := by
  simp [Started]

theorem not_started_nil : ¬Started [] := by
  simp [Started]

theorem not_started_of_start? {a : HostAnswer} (h : a.start? = none) : ¬Started [a] := by
  simp [started_singleton, h]

/-- What a process has of instances: whether one is in the slot, how many are being stopped, and
what the gauge says. -/
structure Tally where
  held : Bool
  stopping : Nat
  gauge : Int

namespace Tally

/-- The instances that are there. -/
def live (t : Tally) : Nat := t.held.toNat + t.stopping

/-- What a move does that answers so. -/
inductive Shift (answers : List HostAnswer) : Tally → Tally → Prop where
  | same (t : Tally) (nothing : ¬Started answers) : Shift answers t t
  | started {n : Nat} {g : Int} (start : Started answers) : Shift answers ⟨false, n, g⟩ ⟨true, n, 1⟩
  | begun {n : Nat} {g : Int} (nothing : ¬Started answers) :
      Shift answers ⟨true, n, g⟩ ⟨false, n + 1, g⟩
  | finished {b : Bool} {n : Nat} {g : Int} (nothing : ¬Started answers) :
      Shift answers ⟨b, n + 1, g⟩ ⟨b, n, 0⟩
  /-- Both steps of a stop at once. -/
  | stopped {n : Nat} {g : Int} (nothing : ¬Started answers) :
      Shift answers ⟨true, n, g⟩ ⟨false, n, 0⟩

/-- The gauge is 0 or 1, and it is 0 if there is no instance. -/
structure Sound (t : Tally) : Prop where
  gauge : t.gauge = 0 ∨ t.gauge = 1
  live : t.gauge = 1 → 0 < t.live

/-- There is no instance, or just one, and the gauge tells. -/
inductive Single : Tally → Prop where
  | none : Single ⟨false, 0, 0⟩
  | held : Single ⟨true, 0, 1⟩
  | stopping : Single ⟨false, 1, 1⟩

variable {answers : List HostAnswer} {t t' : Tally}

theorem Shift.sound (hs : Shift answers t t') (ht : t.Sound) : t'.Sound := by
  cases hs with
  | same => exact ht
  | started => exact ⟨.inr rfl, fun _ => Nat.add_pos_left Nat.one_pos _⟩
  | begun => exact ⟨ht.gauge, fun _ => by simp [Tally.live]⟩
  | finished | stopped => exact ⟨.inl rfl, nofun⟩

theorem Shift.single (hs : Shift answers t t') (ht : t.Single)
    (apart : Started answers → t.stopping = 0) : t'.Single := by
  cases hs with
  | same => exact ht
  | started start =>
    obtain rfl := apart start
    exact .held
  | begun =>
    cases ht
    exact .stopping
  | finished =>
    cases ht
    exact .none
  | stopped =>
    cases ht
    exact .none

theorem Single.live_le (ht : t.Single) : t.live ≤ 1 := by
  cases ht <;> simp [Tally.live]

theorem Single.gauge_iff (ht : t.Single) : t.gauge = 1 ↔ 0 < t.live := by
  cases ht <;> simp [Tally.live]

/-- A start leaves the new instance beside those that are being stopped. -/
theorem Shift.live_of_started (hs : Shift answers t t') (start : Started answers) :
    t'.live = t.stopping + 1 := by
  cases hs with
  | started => exact Nat.add_comm 1 _
  | same _ nothing | begun nothing | finished nothing | stopped nothing => exact absurd start nothing

end Tally

/-! ## What a move does -/

namespace Host

/-- The instances that have not been shut down, in the slot or not. -/
def live (h : Host) : List Instance := h.active.toList ++ h.closing

/-- What there is of them, and the gauge. -/
def tally (h : Host) : Tally := ⟨h.active.isSome, h.closing.length, h.metrics.running⟩

theorem live_tally (h : Host) : h.tally.live = h.live.length := by
  cases active : h.active <;> simp [tally, live, Tally.live, active, Nat.add_comm]

variable {h : Host}

theorem tally_shutDown (h : Host) (i : Instance) :
    (h.shutDown i).tally = ⟨h.active.isSome, h.closing.length, 0⟩ :=
  congrArg (Tally.mk _ _) (i.running_observeAll_shutdown h.metrics)

theorem SlotRuns.shift_startWith (hruns : h.SlotRuns) (s : Settings) {a : HostAnswer}
    (ha : a.start? = some (h.startWith s).1) : Tally.Shift [a] h.tally (h.startWith s).2.tally := by
  revert ha
  unfold Host.startWith
  split
  · next active =>
    have hnone : h.tally = ⟨false, h.closing.length, h.metrics.running⟩ := by simp [tally, active]
    rcases h.launch_cases s with ⟨e, hlaunch⟩ | ⟨i, -, hlaunch⟩
    · rw [hlaunch]
      exact fun ha => .same _ (by simp [started_singleton, ha])
    · rw [hlaunch, hnone]
      exact fun ha => .started (started_singleton.mpr ha)
  · next i active =>
    rw [if_pos (hruns i active)]
    exact fun ha => .same _ (by simp [started_singleton, ha])

theorem shift_beginStop (h : Host) {answers : List HostAnswer} (nothing : ¬Started answers) :
    Tally.Shift answers h.tally h.beginStop.2.tally := by
  unfold beginStop
  split
  · exact .same _ nothing
  · next i active =>
    have hsome : h.tally = ⟨true, h.closing.length, h.metrics.running⟩ := by simp [tally, active]
    rw [hsome]
    simpa [tally] using Tally.Shift.begun nothing

theorem shift_finishStop (h : Host) (k : Nat) {answers : List HostAnswer}
    (nothing : ¬Started answers) : Tally.Shift answers h.tally (h.finishStop k).tally := by
  unfold finishStop
  split
  · exact .same _ nothing
  · next i hk =>
    have hlt : k < h.closing.length := (List.getElem?_eq_some_iff.mp hk).1
    have hone : h.closing.length = (h.closing.eraseIdx k).length + 1 := by
      rw [List.length_eraseIdx_of_lt hlt]
      omega
    rw [tally_shutDown, tally, hone]
    exact .finished nothing

theorem shift_stop (h : Host) {answers : List HostAnswer} (nothing : ¬Started answers) :
    Tally.Shift answers h.tally h.stop.2.tally := by
  cases active : h.active with
  | none =>
    have hstop : h.stop.2 = h := by simp [stop, beginStop, active]
    rw [hstop]
    exact .same _ nothing
  | some i =>
    have hstop : h.stop.2 = { h with active := none }.shutDown i := by
      simp [stop, beginStop, finishStop, active, List.eraseIdx_append_of_length_le]
    rw [hstop, tally_shutDown, tally, active]
    exact .stopped nothing

theorem SlotRuns.shift_handle (hruns : h.SlotRuns) (q : HttpRequest) :
    Tally.Shift [.reply (h.handle q).1] h.tally (h.handle q).2.tally := by
  unfold Host.handle
  split
  · split
    · next text _ =>
      -- The request asks for no start, or the start fails, or it succeeds.
      rcases h.startRequested_cases text with
        ⟨reply, hreply, hrequested⟩ |
        ⟨s, -, ⟨e, h', hstart, hrequested⟩ | ⟨status, h', hstart, hrequested⟩⟩
      · rw [hrequested]
        refine .same _ (not_started_of_start? ?_)
        cases reply <;> first | rfl | cases hreply
      · have hshift := hruns.shift_startWith s (a := .reply (.failed e)) (by rw [hstart]; rfl)
        rw [hstart] at hshift
        rw [hrequested]
        exact hshift
      · have hshift := hruns.shift_startWith s (a := .reply (.started status))
          (by rw [hstart]; rfl)
        rw [hstart] at hshift
        rw [hrequested]
        exact hshift
    · exact .same _ (not_started_of_start? rfl)
  · exact h.shift_stop (not_started_of_start? rfl)
  · exact .same _ (not_started_of_start? rfl)
  · exact .same _ (not_started_of_start? rfl)

theorem SlotRuns.shift_call (hruns : h.SlotRuns) (c : HostCall) :
    Tally.Shift [(h.call c).1] h.tally (h.call c).2.tally := by
  cases c with
  | startWith s => exact hruns.shift_startWith s rfl
  | start listenHost listenPort targetHost targetPort => exact hruns.shift_startWith _ rfl
  | stop => exact h.shift_stop (not_started_of_start? rfl)
  | status => exact .same _ (not_started_of_start? rfl)
  | request q =>
    have hruns : (h.say (requestLine q)).SlotRuns := hruns.congr rfl
    exact hruns.shift_handle q

/-- An instance that makes a move stays where it is, and the gauge as well. -/
theorem tally_withRelay (h : Host) (m : Move) : (h.withRelay (·.move m)).tally = h.tally := by
  unfold withRelay
  split
  · rfl
  · next i active =>
    have hgauge := Metrics.running_observeAll (i.relay.within_move m) h.metrics
    simp only [tally, active]
    exact congrArg (Tally.mk _ _) hgauge

theorem tally_serveMetrics (h : Host) (address : String) :
    (h.serveMetrics address).tally = h.tally := by
  unfold serveMetrics
  split
  · rfl
  · split <;> rfl

theorem tally_withClosing (h : Host) (k : Nat) (m : Move) : (h.withClosing k m).tally = h.tally := by
  unfold withClosing
  split
  · rfl
  · next i _ =>
    have hgauge := Metrics.running_observeAll (i.relay.within_move m) h.metrics
    simp only [tally, observe, List.length_set]
    exact congrArg (Tally.mk _ _) hgauge

end Host

open Host in
theorem shift_fineStep {w : Site} (hruns : w.host.SlotRuns) (m : FineMove) :
    Tally.Shift (w.fineStep m).2 w.host.tally (w.fineStep m).1.host.tally := by
  have hsame {h' : Host} (h : h'.tally = w.host.tally) : Tally.Shift [] w.host.tally h'.tally := by
    rw [h]
    exact .same _ not_started_nil
  cases m with
  | whole m =>
    cases m with
    | call c => exact hruns.shift_call c
    | input i _ => exact hsame (w.host.tally_withRelay (.input i))
    | turn t => exact hsame (w.host.tally_withRelay (.turn t))
    | rewire | otherOpens => exact hsame rfl
    | otherCloses a =>
      simp only [Site.fineStep, Site.step]
      split <;> exact hsame rfl
    | serveMetrics address => exact hsame (w.host.tally_serveMetrics address)
  | beginStop => exact w.host.shift_beginStop (not_started_of_start? rfl)
  | finishStop k => exact w.host.shift_finishStop k not_started_nil
  | lingering k m => exact hsame (w.host.tally_withClosing k m)

/-! ## Runs -/

/-- No start succeeds while an instance is being stopped. -/
def StartsApart (w : Site) : List FineMove → Prop
  | [] => True
  | m :: ms =>
    (Started (w.fineStep m).2 → w.host.closing = []) ∧ StartsApart (w.fineStep m).1 ms

theorem sound_fineRun {w : Site} (hruns : w.host.SlotRuns) (ht : w.host.tally.Sound)
    (ms : List FineMove) : (w.fineRun ms).1.host.tally.Sound := by
  induction ms generalizing w with
  | nil => exact ht
  | cons m ms ih => exact ih (slotRuns_fineStep hruns m) ((shift_fineStep hruns m).sound ht)

theorem single_fineRun {w : Site} (hruns : w.host.SlotRuns) (ht : w.host.tally.Single)
    {ms : List FineMove} (apart : StartsApart w ms) : (w.fineRun ms).1.host.tally.Single := by
  induction ms generalizing w with
  | nil => exact ht
  | cons m ms ih =>
    refine ih (slotRuns_fineStep hruns m) ((shift_fineStep hruns m).single ht fun start => ?_) apart.2
    exact List.length_eq_zero_iff.mpr (apart.1 start)

theorem StartsApart.of_prefix {w : Site} {before ms : List FineMove} (h : before <+: ms)
    (apart : StartsApart w ms) : StartsApart w before := by
  obtain ⟨later, rfl⟩ := h
  induction before generalizing w with
  | nil => trivial
  | cons m before ih => exact ⟨apart.1, ih apart.2⟩

/-- A start in the middle of a stop makes two. -/
theorem startsApart_of_live {w : Site} (hruns : w.host.SlotRuns) {ms : List FineMove}
    (hone : ∀ before, before <+: ms → (w.fineRun before).1.host.tally.live ≤ 1) :
    StartsApart w ms := by
  induction ms generalizing w with
  | nil => trivial
  | cons m ms ih =>
    refine ⟨fun start => ?_, ih (slotRuns_fineStep hruns m) fun before hbefore => ?_⟩
    · have hlive := (shift_fineStep hruns m).live_of_started start
      have hle : (w.fineStep m).1.host.tally.live ≤ 1 := hone [m] (by simp)
      refine List.length_eq_zero_iff.mp ?_
      rw [hlive] at hle
      exact Nat.le_zero.mp (Nat.le_of_succ_le_succ hle)
    · exact hone (m :: before) (List.cons_prefix_cons.mpr ⟨rfl, hbefore⟩)

theorem Host.tally_of_idle {h : Host} (idle : h.Idle) : h.tally = ⟨false, 0, 0⟩ := by
  simp [Host.tally, idle.active, idle.closing, idle.running]

/-- **One instance, as long as starts and stops stay apart.** Take a process without an instance and
any moves, with the two steps of a stop one by one. There is never more than one instance, in the
slot or being stopped, just when no start succeeds in the middle of a stop. Then the gauge is 1 just
when there is an instance and, when no stop is going on, just when one is in the slot. In any case
the gauge is 0 or 1, and if it is 1 when no stop is going on, there is an instance in the slot. -/
theorem one_live_while_starts_apart {h₀ : Host} (idle : h₀.Idle) (ms : List FineMove) :
    let after (before : List FineMove) : Host := ((Site.around h₀).fineRun before).1.host
    let h := after ms
    ((∀ before, before <+: ms → (after before).live.length ≤ 1) ↔
        StartsApart (Site.around h₀) ms) ∧
      (StartsApart (Site.around h₀) ms → (h.metrics.running = 1 ↔ h.live ≠ []) ∧
        (h.closing = [] → (h.metrics.running = 1 ↔ h.active.isSome = true))) ∧
      (h.metrics.running = 0 ∨ h.metrics.running = 1) ∧
      (h.closing = [] → h.metrics.running = 1 → h.active.isSome = true) := by
  intro after h
  have hruns : h₀.SlotRuns := Host.slotRuns_of_none idle.active
  have hsingle {before : List FineMove} (apart : StartsApart (Site.around h₀) before) :
      (after before).tally.Single :=
    single_fineRun (w := Site.around h₀) hruns (h₀.tally_of_idle idle ▸ .none) apart
  have hsound : h.tally.Sound :=
    sound_fineRun (w := Site.around h₀) hruns (h₀.tally_of_idle idle ▸ ⟨.inl rfl, nofun⟩) ms
  have hslot (hclosing : h.closing = []) : h.live ≠ [] ↔ h.active.isSome = true := by
    simp [Host.live, hclosing, Option.isSome_iff_ne_none]
  have hpos : 0 < h.tally.live ↔ h.live ≠ [] := by
    rw [h.live_tally, List.length_pos_iff]
  refine ⟨⟨fun hone => ?_, fun apart before hbefore => ?_⟩, fun apart => ?_, hsound.gauge,
    fun hclosing hgauge => (hslot hclosing).mp (hpos.mp (hsound.live hgauge))⟩
  · refine startsApart_of_live (w := Site.around h₀) hruns fun before hbefore => ?_
    rw [Host.live_tally]
    exact hone before hbefore
  · rw [← Host.live_tally]
    exact (hsingle (apart.of_prefix hbefore)).live_le
  · have hgauge : h.metrics.running = 1 ↔ h.live ≠ [] := (hsingle apart).gauge_iff.trans hpos
    exact ⟨hgauge, fun hclosing => hgauge.trans (hslot hclosing)⟩

/-- An instance on one port is being stopped while one is started on another. -/
def startAmidStop : List FineMove :=
  [ .whole (.call (.startWith { listen := "127.0.0.1:5020", target := "127.0.0.1:502" })),
    .beginStop,
    .whole (.call (.startWith { listen := "127.0.0.1:5021", target := "127.0.0.1:502" })) ]

/-- The second start comes after the whole stop. -/
def startAfterStop : List FineMove :=
  [ .whole (.call (.startWith { listen := "127.0.0.1:5020", target := "127.0.0.1:502" })),
    .beginStop, .finishStop 0,
    .whole (.call (.startWith { listen := "127.0.0.1:5021", target := "127.0.0.1:502" })) ]

/-- Apart from each other, the start and the stop leave one instance, and the gauge tells so. -/
theorem one_live_of_startAfterStop :
    let h := ((Site.around oneDevice).fineRun startAfterStop).1.host
    oneDevice.Idle ∧ StartsApart (Site.around oneDevice) startAfterStop ∧
      h.live.length ≤ 1 ∧ h.active.isSome = true ∧ h.metrics.running = 1 := by
  intro h
  have idle : oneDevice.Idle := ⟨rfl, rfl, rfl⟩
  have apart : StartsApart (Site.around oneDevice) startAfterStop :=
    ⟨fun _ => rfl, fun start => absurd start (not_started_of_start? rfl),
      fun start => absurd start not_started_nil, fun _ => by decide +kernel, trivial⟩
  have hclosing : h.closing = [] := by decide +kernel
  have hheld : h.active.isSome = true := by decide +kernel
  obtain ⟨hone, hgauge, -, -⟩ := one_live_while_starts_apart idle startAfterStop
  exact ⟨idle, apart, hone.mpr apart _ (List.prefix_refl _), hheld,
    ((hgauge apart).2 hclosing).mpr hheld⟩

/-- A start, one of the two steps of a stop, or a question for the status. -/
def FineMove.IsCall : FineMove → Prop
  | .whole (.call (.startWith _)) | .whole (.call .status) | .beginStop | .finishStop _ => True
  | _ => False

/-- With the start in the middle of the stop, before the stop goes on. -/
def twoLive : Host := ((Site.around oneDevice).fineRun startAmidStop).1.host

/-- And when the stop has come to its end. -/
def lateStop : Host := ((Site.around oneDevice).fineRun (startAmidStop ++ [.finishStop 0])).1.host

/-- But nothing keeps a start out of the middle of a stop. Then there are two instances, both of
which run and listen; and when the stop has come to its end, the gauge says that there is none, and
the process that it is not ready, although it tells of itself that it runs. -/
theorem start_amid_stop :
    (¬∀ (h₀ : Host) (ms : List FineMove), h₀.Idle → (∀ m ∈ ms, m.IsCall) →
      ((Site.around h₀).fineRun ms).1.host.live.length ≤ 1) ∧
    (¬∀ (h₀ : Host) (ms : List FineMove), h₀.Idle → (∀ m ∈ ms, m.IsCall) →
      let h := ((Site.around h₀).fineRun ms).1.host
      h.closing = [] → (h.metrics.running = 1 ↔ h.active.isSome = true)) ∧
    (twoLive.live.map (·.isRunning) = [true, true] ∧
      twoLive.live.map (·.listen) = [⟨.v4 127 0 0 1, 5021⟩, ⟨.v4 127 0 0 1, 5020⟩] ∧
      ∀ i ∈ twoLive.live, i.listen ∈ twoLive.network.listeners) ∧
    (lateStop.closing = [] ∧ lateStop.status.running = true ∧ lateStop.metrics.running = 0 ∧
      (lateStop.metrics.page "/ready").code = 503) := by
  have idle : oneDevice.Idle := ⟨rfl, rfl, rfl⟩
  have hcalls : ∀ m ∈ startAmidStop, m.IsCall := by simp [startAmidStop, FineMove.IsCall]
  have hcalls' : ∀ m ∈ startAmidStop ++ [.finishStop 0], m.IsCall := by
    simp [startAmidStop, FineMove.IsCall]
  have htwo : twoLive.live.length = 2 := by decide +kernel
  have hlate : lateStop.closing = [] ∧ lateStop.metrics.running = 0 ∧
      lateStop.active.isSome = true := by decide +kernel
  refine ⟨fun hone => ?_, fun hgauge => ?_, ?_, ?_⟩
  · have hle : twoLive.live.length ≤ 1 := hone oneDevice startAmidStop idle hcalls
    exact absurd (htwo ▸ hle) (by decide)
  · obtain ⟨hclosing, hzero, hheld⟩ := hlate
    have hlast :
        ((Site.around oneDevice).fineRun (startAmidStop ++ [.finishStop 0])).1.host = lateStop :=
      rfl
    have hiff := hgauge oneDevice (startAmidStop ++ [.finishStop 0]) idle hcalls'
    simp only [hlast] at hiff
    exact absurd (hzero.symm.trans ((hiff hclosing).mpr hheld)) Int.zero_ne_one
  · decide +kernel
  · decide +kernel

end ModbusRelay
