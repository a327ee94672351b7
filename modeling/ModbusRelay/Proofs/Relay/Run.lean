import Mathlib.Data.List.Induction
import ModbusRelay.Instance
import ModbusRelay.Proofs.Pending.Insert
import ModbusRelay.Proofs.Relay.Step

/-!
Runs of a relay: the state at the end (`final`), the events on the way (`trace`), and what the
events say about requests and responses.

A run begins with a `Fresh` relay, which is what a launch gives and what the settings give without
one. `run_induction` is the induction over a run from its first move to its last, with the last move
given as a case of `Step`.
-/

namespace ModbusRelay

/-! ## Histories -/

namespace RelayEvent

variable {α : Type}

/-- The request that an event puts on the queue. -/
def queued? : RelayEvent → Option (Priority × Request)
  | .enqueued p q => some (p, q)
  | _ => none

/-- The request that a session has read. -/
def received? : RelayEvent → Option Request
  | .received _ q => some q
  | _ => none

/-- The request that the dispatcher takes off the queue. -/
def taken? : RelayEvent → Option (Priority × Request)
  | .taken p q => some (p, q)
  | _ => none

/-- The request that is recorded in the table. -/
def recorded? : RelayEvent → Option Request
  | .recorded q => some q
  | _ => none

/-- The request that the device gets. -/
def forwarded? : RelayEvent → Option Request
  | .forwarded q => some q
  | _ => none

/-- The response that the router has read. -/
def handled? : RelayEvent → Option Frame
  | .routed _ f | .missed f | .recipientGone _ f | .recipientFull _ f => some f
  | _ => none

/-- The response that goes into a mailbox, and whose it is. -/
def routed? : RelayEvent → Option (Requester × Frame)
  | .routed who f => some (who, f)
  | _ => none

end RelayEvent

/-- The events of a run, oldest first. -/
abbrev Trace := List RelayEvent

namespace Trace

/-- The requests that were put on the queue, with their classes. -/
abbrev queued (es : Trace) : List (Priority × Request) := es.filterMap RelayEvent.queued?

/-- The requests that sessions have read. -/
abbrev received (es : Trace) : List Request := es.filterMap RelayEvent.received?

/-- The requests that the dispatcher has taken, with their classes. -/
abbrev taken (es : Trace) : List (Priority × Request) := es.filterMap RelayEvent.taken?

/-- The requests that were recorded. -/
abbrev recorded (es : Trace) : List Request := es.filterMap RelayEvent.recorded?

/-- The requests that the device has got. -/
abbrev forwarded (es : Trace) : List Request := es.filterMap RelayEvent.forwarded?

/-- The responses that the router has read. -/
abbrev handled (es : Trace) : List Frame := es.filterMap RelayEvent.handled?

/-- The responses that went into mailboxes, and whose these are. -/
abbrev routed (es : Trace) : List (Requester × Frame) := es.filterMap RelayEvent.routed?

theorem received_append (es es' : Trace) : (es ++ es').received = es.received ++ es'.received :=
  List.filterMap_append

theorem recorded_append (es es' : Trace) : (es ++ es').recorded = es.recorded ++ es'.recorded :=
  List.filterMap_append

theorem forwarded_append (es es' : Trace) : (es ++ es').forwarded = es.forwarded ++ es'.forwarded :=
  List.filterMap_append

theorem handled_append (es es' : Trace) : (es ++ es').handled = es.handled ++ es'.handled :=
  List.filterMap_append

theorem routed_append (es es' : Trace) : (es ++ es').routed = es.routed ++ es'.routed :=
  List.filterMap_append

/-- Events of one kind say nothing about another. -/
theorem filterMap_of_kind {α : Type} {kind : RelayEvent → Bool} {f : RelayEvent → Option α}
    {es : Trace} (h : ∀ e ∈ es, kind e) (hf : ∀ e, kind e → f e = none) : es.filterMap f = [] :=
  List.filterMap_eq_nil_iff.mpr fun e he => hf e (h e he)

variable {es : Trace} (h : ∀ e ∈ es, e.isAside)

include h

theorem queued_aside : es.queued = [] :=
  filterMap_of_kind h fun e he => by cases e <;> first | rfl | cases he

theorem received_aside : es.received = [] :=
  filterMap_of_kind h fun e he => by cases e <;> first | rfl | cases he

theorem taken_aside : es.taken = [] :=
  filterMap_of_kind h fun e he => by cases e <;> first | rfl | cases he

theorem recorded_aside : es.recorded = [] :=
  filterMap_of_kind h fun e he => by cases e <;> first | rfl | cases he

theorem forwarded_aside : es.forwarded = [] :=
  filterMap_of_kind h fun e he => by cases e <;> first | rfl | cases he

theorem handled_aside : es.handled = [] :=
  filterMap_of_kind h fun e he => by cases e <;> first | rfl | cases he

theorem routed_aside : es.routed = [] :=
  filterMap_of_kind h fun e he => by cases e <;> first | rfl | cases he

end Trace

/-- Is a client recorded past the dispatcher? -/
def Move.registers : Move → Bool
  | .input (.register ..) => true
  | _ => false

namespace Relay

/-- What a passed response says: a response is handled, and no request moves. -/
theorem Verdict.trace {owner : Option Requester} {f : Frame} {e : RelayEvent}
    (h : Verdict owner f e) (n : Nat) :
    let es : Trace := [.pending n, e]
    es.handled = [f] ∧ es.queued = [] ∧ es.received = [] ∧ es.taken = [] ∧ es.recorded = [] ∧
      es.forwarded = [] := by
  unfold Verdict at h
  split at h
  · subst h
    exact ⟨rfl, rfl, rfl, rfl, rfl, rfl⟩
  · rcases h with rfl | rfl | rfl <;> exact ⟨rfl, rfl, rfl, rfl, rfl, rfl⟩

/-- What the loss of the device says: nothing about responses or requests. -/
theorem trace_loseDevice (r : Relay) {cause : RelayEvent}
    (told : cause = .deviceClosed ∨ ∃ e, cause = .deviceReadFailed e) :
    let es : Trace := cause :: r.loseDevice.2
    es.handled = [] ∧ es.routed = [] ∧ es.queued = [] ∧ es.received = [] ∧ es.taken = [] ∧
      es.recorded = [] ∧ es.forwarded = [] := by
  unfold loseDevice
  rcases told with rfl | ⟨e, rfl⟩ <;> split <;> exact ⟨rfl, rfl, rfl, rfl, rfl, rfl, rfl⟩

/-! ## Runs -/

/-- The relay after a run. -/
def final (r : Relay) (ms : List Move) : Relay := (r.run ms).1

/-- The events of a run. -/
def trace (r : Relay) (ms : List Move) : Trace := (r.run ms).2

variable (r : Relay)

@[simp]
theorem final_nil : r.final [] = r := rfl

@[simp]
theorem trace_nil : r.trace [] = [] := rfl

@[simp]
theorem final_cons (m : Move) (ms : List Move) : r.final (m :: ms) = (r.move m).1.final ms := rfl

@[simp]
theorem trace_cons (m : Move) (ms : List Move) :
    r.trace (m :: ms) = (r.move m).2 ++ (r.move m).1.trace ms := rfl

@[simp]
theorem final_append (ms ns : List Move) : r.final (ms ++ ns) = (r.final ms).final ns := by
  simp [final]

@[simp]
theorem trace_append (ms ns : List Move) :
    r.trace (ms ++ ns) = r.trace ms ++ (r.final ms).trace ns := by
  simp [final, trace]

/-- Induction over the beginnings of a run: what holds at the start and is kept by each further
move of the run holds after every beginning of it. -/
theorem prefix_induction {r : Relay} {all : List Move} {P : List Move → Relay → Trace → Prop}
    (start : P [] r [])
    (step : ∀ ms m r' es, ms ++ [m] <+: all → P ms (r.final ms) (r.trace ms) →
      Step (r.final ms) m r' es → P (ms ++ [m]) r' (r.trace ms ++ es)) :
    ∀ ms, ms <+: all → P ms (r.final ms) (r.trace ms) := by
  intro ms
  induction ms using List.reverseRecOn with
  | nil => exact fun _ => start
  | append_singleton ms m ih =>
    intro hall
    have h := step ms m _ _ hall (ih ((List.prefix_append ms [m]).trans hall))
      (step_move (r.final ms) m)
    simpa using h

/-- Induction over a run. -/
theorem run_induction {r : Relay} {P : Relay → Trace → Prop} (start : P r [])
    (step : ∀ r₀ es₀ m r' es, P r₀ es₀ → Step r₀ m r' es → P r' (es₀ ++ es)) (ms : List Move) :
    P (r.final ms) (r.trace ms) :=
  prefix_induction (P := fun _ => P) start (fun _ _ _ _ _ h hs => step _ _ _ _ _ h hs) ms
    (List.prefix_refl ms)

/-! ## Where runs begin -/

/-- Nothing has been queued, recorded, sent or read yet. -/
structure Fresh (r : Relay) : Prop where
  queue : r.queue = {}
  entries : r.pending.entries = []
  capacity : 0 < r.pending.capacity
  clients : r.clients = []
  device : r.device = {}
  dispatcher : r.dispatcher = .unstarted ∨ r.dispatcher = .idle
  routing : r.routing = true
  deviceUp : r.deviceUp = true
  cancelled : r.cancelled = false

theorem fresh_ofSettings (s : Settings) : (ofSettings s).Fresh where
  queue := rfl
  entries := rfl
  capacity := Nat.le_max_right _ _
  clients := rfl
  device := rfl
  dispatcher := .inl rfl
  routing := rfl
  deviceUp := rfl
  cancelled := rfl

theorem fresh_freshRelay (s : Settings) : (Instance.freshRelay s).Fresh where
  queue := rfl
  entries := rfl
  capacity := Nat.le_max_right _ _
  clients := rfl
  device := rfl
  dispatcher := .inr rfl
  routing := rfl
  deviceUp := rfl
  cancelled := rfl

/-- No client is recorded past the dispatcher. -/
def OnlyDispatcherRecords (ms : List Move) : Prop := ∀ m ∈ ms, m.registers = false

instance (ms : List Move) : Decidable (OnlyDispatcherRecords ms) :=
  inferInstanceAs (Decidable (∀ m ∈ ms, m.registers = false))

/-- A run that is cancelled and goes on. -/
theorem OnlyDispatcherRecords.cancel {ms ns : List Move} (hms : OnlyDispatcherRecords ms)
    (hns : OnlyDispatcherRecords ns) : OnlyDispatcherRecords (ms ++ .input .cancel :: ns) := by
  intro m hm
  rcases List.mem_append.mp hm with hm | hm
  · exact hms m hm
  · rcases List.mem_cons.mp hm with rfl | hm
    · rfl
    · exact hns m hm

/-! ## What never changes -/

@[simp]
theorem withDeviceInput_queue (change : FrameReader → FrameReader) :
    (r.withDeviceInput change).queue = r.queue := by
  unfold withDeviceInput
  split <;> rfl

@[simp]
theorem withDeviceInput_pending (change : FrameReader → FrameReader) :
    (r.withDeviceInput change).pending = r.pending := by
  unfold withDeviceInput
  split <;> rfl

@[simp]
theorem withDeviceInput_dispatcher (change : FrameReader → FrameReader) :
    (r.withDeviceInput change).dispatcher = r.dispatcher := by
  unfold withDeviceInput
  split <;> rfl

@[simp]
theorem withDeviceInput_routing (change : FrameReader → FrameReader) :
    (r.withDeviceInput change).routing = r.routing := by
  unfold withDeviceInput
  split <;> rfl

@[simp]
theorem withDeviceInput_output (change : FrameReader → FrameReader) :
    (r.withDeviceInput change).device.output = r.device.output := by
  unfold withDeviceInput
  split <;> rfl

/-- The table keeps its policy, timeout and capacity, and stays within the capacity. -/
theorem pending_final {r : Relay} (hr : r.pending.Bounded) (ms : List Move) :
    (r.final ms).pending.policy = r.pending.policy ∧
      (r.final ms).pending.timeout = r.pending.timeout ∧
      (r.final ms).pending.capacity = r.pending.capacity ∧ (r.final ms).pending.Bounded := by
  refine run_induction (r := r) (P := fun s _ => s.pending.policy = r.pending.policy ∧
    s.pending.timeout = r.pending.timeout ∧ s.pending.capacity = r.pending.capacity ∧
    s.pending.Bounded) ⟨rfl, rfl, rfl, hr⟩ ?_ ms
  intro r₀ es₀ m r' es ⟨hpolicy, htimeout, hcapacity, hbounded⟩ hs
  have hins : ∀ {id who answer pending}, r₀.pending.insert id who r₀.clock = (answer, pending) →
      pending.policy = r.pending.policy ∧ pending.timeout = r.pending.timeout ∧
      pending.capacity = r.pending.capacity ∧ pending.Bounded := by
    intro id who answer pending h
    obtain rfl : (r₀.pending.insert id who r₀.clock).2 = pending := congrArg Prod.snd h
    exact ⟨by simpa, by simpa, by simpa, hbounded.insert id who r₀.clock⟩
  cases hs with
  | registered => exact hins rfl
  | recorded _ answer | displaced _ answer | refused _ answer => exact hins answer
  | routed | unwritten => exact ⟨by simpa, by simpa, by simpa, hbounded.take _⟩
  | lost => exact ⟨hpolicy, htimeout, hcapacity, .clear _⟩
  | deviceSent | deviceEnded => simpa using ⟨hpolicy, htimeout, hcapacity, hbounded⟩
  | _ => exact ⟨hpolicy, htimeout, hcapacity, hbounded⟩

theorem Fresh.bounded {r : Relay} (hr : r.Fresh) : r.pending.Bounded := by
  unfold PendingTable.Bounded PendingTable.size
  rw [hr.entries]
  exact Nat.zero_le _

theorem policy_final {r : Relay} (hr : r.Fresh) (ms : List Move) :
    (r.final ms).pending.policy = r.pending.policy := (pending_final hr.bounded ms).1

end Relay

end ModbusRelay
