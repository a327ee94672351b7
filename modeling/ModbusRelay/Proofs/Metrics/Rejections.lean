import Mathlib.Data.Fintype.EquivFin
import ModbusRelay.Proofs.Metrics.Gauges
import ModbusRelay.Proofs.Pending.Refusal
import ModbusRelay.Proofs.Relay.Account

/-!
What the counter of duplicate rejections counts.

The table refuses a request for one of two reasons: a young entry has its id (`Blocks`), or its id is
new and there is no room for it even after a purge (`Crowded`). Both are read off the table that the
request meets when the dispatcher records it, and the events of the run say the same
(`duplicates_of_trace`, `crowdedOut_of_trace`). The counter goes up for either; so it counts the
duplicates exactly in the runs in which nothing is refused for want of room
(`rejections_count_both_refusals`).
-/

namespace ModbusRelay

/-- Is a request refused because its id is in flight? -/
def PendingError.isDuplicate : PendingError → Bool
  | .duplicate .. => true
  | .full _ => false

/-- Is a request refused for want of room? -/
def PendingError.isFull (cause : PendingError) : Bool := !cause.isDuplicate

/-- The request that an event refuses for a reason of the given kind. -/
def RelayEvent.refusedFor? (reason : PendingError → Bool) (e : RelayEvent) : Option Request :=
  e.refused?.bind fun x => if reason x.2 then some x.1 else none

namespace Trace

/-- The requests that were refused for reasons of the given kind. -/
abbrev refusedFor (reason : PendingError → Bool) (es : Trace) : List Request :=
  es.filterMap (RelayEvent.refusedFor? reason)

theorem refusedFor_eq (reason : PendingError → Bool) (es : Trace) :
    es.refusedFor reason = es.refused.filterMap fun x => if reason x.2 then some x.1 else none :=
  List.filterMap_filterMap.symm

/-- Every refusal has one of two reasons. -/
theorem length_refused (es : Trace) : es.refused.length =
    (es.refusedFor PendingError.isDuplicate).length
      + (es.refusedFor PendingError.isFull).length := by
  rw [refusedFor_eq, refusedFor_eq]
  induction es.refused with
  | nil => rfl
  | cons x refusals ih =>
    obtain ⟨q, cause⟩ := x
    cases cause with
    | duplicate id age => exact (congrArg (· + 1) ih).trans (Nat.add_right_comm _ _ 1)
    | full capacity => exact congrArg (· + 1) ih

end Trace

namespace PendingTable

variable {α : Type} {t : PendingTable α} {id : UInt16} {value : α} {now : Micros}

/-- A young entry keeps its id from being recorded again. -/
def Blocks (t : PendingTable α) (id : UInt16) (now : Micros) : Prop :=
  t.policy = .reject ∧ ∃ e ∈ t.find? id, e.age now < t.timeout

/-- There is no room for a new id, and a purge would make none. -/
def Crowded (t : PendingTable α) (id : UInt16) (now : Micros) : Prop :=
  t.contains id = false ∧ t.size = t.capacity ∧ t.Young now

instance (t : PendingTable α) (id : UInt16) (now : Micros) : Decidable (t.Blocks id now) :=
  inferInstanceAs (Decidable (_ ∧ ∃ e ∈ t.find? id, _))

instance (t : PendingTable α) (id : UInt16) (now : Micros) : Decidable (t.Crowded id now) :=
  inferInstanceAs (Decidable (_ ∧ _ ∧ _))

theorem blocks_iff :
    t.Blocks id now ↔ ∃ id' age, (t.insert id value now).1 = .error (.duplicate id' age) := by
  constructor
  · rintro ⟨policy, e, found, young⟩
    exact ⟨id, e.age now, insert_eq_duplicate_iff.mpr ⟨rfl, policy, e, found, rfl, young⟩⟩
  · rintro ⟨id', age, h⟩
    obtain ⟨-, policy, e, found, rfl, young⟩ := insert_eq_duplicate_iff.mp h
    exact ⟨policy, e, found, young⟩

theorem crowded_iff (hbounded : t.Bounded) :
    t.Crowded id now ↔ ∃ capacity, (t.insert id value now).1 = .error (.full capacity) := by
  constructor
  · intro h
    exact ⟨t.capacity, (insert_eq_full_iff hbounded).mpr ⟨rfl, h⟩⟩
  · rintro ⟨capacity, h⟩
    exact ((insert_eq_full_iff hbounded).mp h).2

/-- A table that lacks an id has fewer entries than there are ids. -/
theorem size_lt_of_absent (h : t.contains id = false) : t.size < 65536 := by
  have habsent : id ∉ t.ids := by
    intro hmem
    obtain ⟨e, he, hid⟩ := List.mem_map.mp hmem
    have hnone := List.find?_eq_none.mp (contains_eq_false_iff.mp h) e he
    exact hnone (by simp [hid])
  have hnodup : ((id :: t.ids).map UInt16.toFin).Nodup :=
    (List.nodup_cons.mpr ⟨habsent, t.ids_nodup⟩).map fun a b hab => UInt16.toFin_inj.mp hab
  have hcard := hnodup.length_le_card
  rw [Fintype.card_fin, List.length_map, List.length_cons, ids, List.length_map] at hcard
  exact hcard

end PendingTable

namespace Relay

variable {r : Relay}

/-- The request that a move is to record. -/
def recording? (r : Relay) : Move → Option Request
  | .turn .record =>
    match r.dispatcher with
    | .holding _ q => some q
    | _ => none
  | _ => none

/-- A request that is to be recorded is refused or not, as the table answers. -/
theorem move_of_recording {m : Move} {q : Request} (h : r.recording? m = some q) :
    (r.move m).2.filterMap RelayEvent.refused? =
      match (r.pending.insert q.transactionId q.requester r.clock).1 with
      | .ok _ => []
      | .error cause => [(q, cause)] := by
  unfold recording? at h
  split at h
  · split at h
    · next p q' hholding =>
      obtain rfl : q' = q := Option.some.inj h
      simp only [move, turn?, record?, hholding, Option.getD_some]
      rcases r.pending.insert q'.transactionId q'.requester r.clock with ⟨answer, pending⟩
      rcases answer with cause | ⟨_ | orphan⟩ <;> rfl
    · cases h
  · cases h

/-- Nothing is refused but what is to be recorded. -/
theorem move_of_not_recording {m : Move} (h : r.recording? m = none) :
    (r.move m).2.filterMap RelayEvent.refused? = [] := by
  refine List.filterMap_eq_nil_iff.mpr fun e he => ?_
  cases e with
  | refused q cause =>
    obtain ⟨rfl, ⟨p, holding⟩, -⟩ := (step_move r m).of_refused he
    rw [recording?, holding] at h
    cases h
  | _ => rfl

/-- The requests that a move is to record and to whose id the table answers in the given way. -/
def meeting (answer : PendingTable Requester → UInt16 → Micros → Bool) (r : Relay) (m : Move) :
    List Request :=
  (r.recording? m).toList.filter fun q => answer r.pending q.transactionId r.clock

/-- The requests that are to be recorded while a young entry has their id. -/
abbrev colliding : Relay → Move → List Request := meeting fun t id now => t.Blocks id now

/-- The requests that are to be recorded while there is no room for their id. -/
abbrev crowded : Relay → Move → List Request := meeting fun t id now => t.Crowded id now

/-- If the answer of the table is a refusal, the events of the move have it. -/
theorem meeting_eq {answer : PendingTable Requester → UInt16 → Micros → Bool}
    {reason : PendingError → Bool} {m : Move}
    (h : ∀ q : Request, answer r.pending q.transactionId r.clock = true ↔ ∃ cause,
      (r.pending.insert q.transactionId q.requester r.clock).1 = .error cause ∧ reason cause) :
    meeting answer r m = Trace.refusedFor reason (r.move m).2 := by
  rw [Trace.refusedFor_eq, Trace.refused]
  unfold meeting
  cases hrecording : r.recording? m with
  | none =>
    rw [move_of_not_recording hrecording]
    rfl
  | some q =>
    rw [move_of_recording hrecording, Option.toList_some]
    have hq := h q
    cases hanswer : (r.pending.insert q.transactionId q.requester r.clock).1 with
    | error cause =>
      have hreason : answer r.pending q.transactionId r.clock = reason cause := by
        rw [hanswer] at hq
        rw [Bool.eq_iff_iff, hq]
        constructor
        · rintro ⟨_, ⟨⟩, hcause⟩
          exact hcause
        · exact fun hcause => ⟨cause, rfl, hcause⟩
      cases hcause : reason cause <;> simp [hreason, hcause]
    | ok orphan =>
      have hnot : ¬answer r.pending q.transactionId r.clock = true := by
        rw [hq, hanswer]
        rintro ⟨_, ⟨⟩, -⟩
      simp [hnot]

/-- The duplicates of a run are the requests that met a young entry of their id. -/
theorem duplicates_of_trace (ms : List Move) :
    (r.trace ms).refusedFor PendingError.isDuplicate = r.yields colliding ms := by
  refine (yields_eq_filterMap colliding _ fun ps m _ => meeting_eq fun q => ?_).symm
  rw [decide_eq_true_iff, PendingTable.blocks_iff]
  constructor
  · rintro ⟨id, age, h⟩
    exact ⟨_, h, rfl⟩
  · rintro ⟨_ | _, h, hreason⟩
    · exact ⟨_, _, h⟩
    · cases hreason

/-- The requests of a run that were refused for want of room are those that met a full table. -/
theorem crowdedOut_of_trace (hr : r.Fresh) (ms : List Move) :
    (r.trace ms).refusedFor PendingError.isFull = r.yields crowded ms := by
  refine (yields_eq_filterMap crowded _ fun ps m _ => meeting_eq fun q => ?_).symm
  rw [decide_eq_true_iff, PendingTable.crowded_iff (pending_final hr.bounded ps).2.2.2]
  constructor
  · rintro ⟨capacity, h⟩
    exact ⟨_, h, rfl⟩
  · rintro ⟨_ | _, h, hreason⟩
    · cases hreason
    · exact ⟨_, h⟩

/-- A table with room for every id refuses none for want of room. -/
theorem yields_crowded_of_roomy (hr : r.Fresh) (hroom : 65536 ≤ r.pending.capacity)
    (ms : List Move) : r.yields crowded ms = [] := by
  induction ms using List.reverseRecOn with
  | nil => rfl
  | append_singleton ms m ih =>
    rw [yields_snoc, ih, List.nil_append, crowded, meeting, List.filter_eq_nil_iff]
    intro q _
    rw [decide_eq_true_iff]
    rintro ⟨habsent, hfull, -⟩
    have hsize := PendingTable.size_lt_of_absent habsent
    have hcapacity := (pending_final hr.bounded ms).2.2.1
    omega

/-- **The counter of duplicate rejections counts both refusals.** Of a run, the requests refused as
duplicates are those that came to be recorded while a young entry had their id, and those refused
for want of room are those that came while the table was full of young entries and lacked their id.
The counter grows by the number of both together. So it counts the duplicates just when no request
was refused for want of room, which a table with room for every id makes sure of. -/
theorem rejections_count_both_refusals (hr : r.Fresh) (m : Metrics) (ms : List Move) :
    let es := r.trace ms
    let counted := (m.observeAll es).duplicateRejections
    let duplicates := es.refusedFor PendingError.isDuplicate
    let crowdedOut := es.refusedFor PendingError.isFull
    (duplicates = r.yields colliding ms ∧ crowdedOut = r.yields crowded ms) ∧
    counted = m.duplicateRejections + (duplicates.length + crowdedOut.length) ∧
    (counted = m.duplicateRejections + duplicates.length ↔ crowdedOut = []) ∧
    (65536 ≤ r.pending.capacity → crowdedOut = []) := by
  intro es counted duplicates crowdedOut
  have hcrowded : crowdedOut = r.yields crowded ms := crowdedOut_of_trace hr ms
  have hcounted : counted = m.duplicateRejections + (duplicates.length + crowdedOut.length) := by
    rw [← Trace.length_refused]
    exact Metrics.duplicateRejections_observeAll m es
  refine ⟨⟨duplicates_of_trace ms, hcrowded⟩, hcounted, ?_, fun hroom => ?_⟩
  · rw [hcounted, ← List.length_eq_zero_iff]
    omega
  · rw [hcrowded]
    exact yields_crowded_of_roomy hr hroom ms

/-- There is room for one request, and a second client comes with another id. -/
def secondOfTwo : List Move :=
  [ .input (.serve ⟨.v4 10 0 0 9, 40000⟩), .input (.serve ⟨.v4 10 0 0 8, 40001⟩),
    .input .startDispatcher, .turn (.begin 0), .turn (.begin 1) ]
    ++ forwardOne 0 [0, 1, 0, 0, 0, 2, 1, 3] ++ forwardOne 1 [0, 2, 0, 0, 0, 2, 1, 3]

/-- The second client comes back with the id of the first. Of its two requests one is a duplicate,
and both are counted. -/
theorem rejections_of_secondOfTwo :
    let r := ofSettings { maxPending := 1 }
    let ms := secondOfTwo ++ forwardOne 1 [0, 1, 0, 0, 0, 2, 1, 3]
    r.Fresh ∧ (r.yields colliding ms).length = 1 ∧ (r.yields crowded ms).length = 1 ∧
      (Metrics.ofEvents (r.trace ms)).duplicateRejections = 2 := by
  intro r ms
  have hr : r.Fresh := fresh_ofSettings _
  obtain ⟨⟨hduplicates, hcrowded⟩, hcounted, -⟩ := rejections_count_both_refusals hr {} ms
  have hone : (r.yields colliding ms).length = 1 := by decide +kernel
  have hother : (r.yields crowded ms).length = 1 := by decide +kernel
  refine ⟨hr, hone, hother, hcounted.trans ?_⟩
  rw [hduplicates, hcrowded, hone, hother]

/-- So the counter does not count duplicates only: with room for one request it counts one whose id
nobody else has used. -/
theorem full_table_counts_as_duplicate :
    ¬∀ (r : Relay) (ms : List Move), r.Fresh →
      (Metrics.ofEvents (r.trace ms)).duplicateRejections =
        ((r.trace ms).refusedFor PendingError.isDuplicate).length := by
  intro h
  have hcount := h (ofSettings { maxPending := 1 }) secondOfTwo (fresh_ofSettings _)
  revert hcount
  decide +kernel

end Relay

end ModbusRelay
