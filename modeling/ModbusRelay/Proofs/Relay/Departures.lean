import ModbusRelay.Proofs.Metrics.Counters
import ModbusRelay.Proofs.Pending.Entries
import ModbusRelay.Proofs.Relay.Settle

/-!
No entry of the table and no response is unaccounted for.

An entry leaves the table in one of five ways (`WayOut`), and a response that the router has read
comes to one of four ends, which depend on the table and on the mailbox of the client that waits
(`verdict`). `departures` and `decoded` read off the state which of these a move brings about. Every
entry that was recorded is in the table or has left it (`owners_balance`), and the entries that the
router has taken are those of the responses that somebody waited for (`taken_eq_decoded`). Both are
proved for one move and then for a run; a shutdown is a run that ends with clearing the table
(`entries_and_responses_add_up`).
-/

namespace ModbusRelay

/-- How an entry leaves the table. -/
inductive WayOut where
  /-- The router takes it for a response. -/
  | taken
  /-- Another request is recorded in its place. -/
  | displaced
  /-- It has reached the timeout and the table is full. -/
  | purged
  /-- Its request cannot be written. -/
  | unwritten
  /-- Everything is abandoned, with the device or at the end. -/
  | cleared
  deriving DecidableEq, Repr

/-- The entries leave the table on the same way. -/
def WayOut.leave (way : WayOut) (entries : List (PendingEntry Requester)) :
    List (WayOut × PendingEntry Requester) := entries.map (way, ·)

/-- The transaction id of an entry, and who waits for the answer. -/
def PendingEntry.owner (e : PendingEntry Requester) : UInt16 × Requester := (e.id, e.value)

/-- The transaction id of a request, and who waits for the answer. -/
def Request.owner (q : Request) : UInt16 × Requester := (q.transactionId, q.requester)

@[simp]
theorem WayOut.owner_leave (way : WayOut) (entries : List (PendingEntry Requester)) :
    (way.leave entries).map (·.2.owner) = entries.map PendingEntry.owner := by
  simp [leave, Function.comp_def]

/-- A response that the router has read, and what the mailbox said to it if somebody waits. -/
def RelayEvent.decoded? : RelayEvent → Option (Frame × Option Mailbox.Offer)
  | .routed _ f => some (f, some .accepted)
  | .recipientGone _ f => some (f, some .closed)
  | .recipientFull _ f => some (f, some .full)
  | .missed f => some (f, none)
  | _ => none

/-- The transaction id of an entry that the router takes. -/
def taken? (x : WayOut × PendingEntry Requester) : Option UInt16 :=
  if x.1 = .taken then some x.2.id else none

/-- The transaction id of a response that somebody waits for. -/
def awaited? (x : Frame × Option Mailbox.Offer) : Option UInt16 :=
  x.2.map fun _ => x.1.transactionId

namespace Trace

/-- The responses that the router has read, and what became of them. -/
abbrev decoded (es : Trace) : List (Frame × Option Mailbox.Offer) :=
  es.filterMap RelayEvent.decoded?

theorem decoded_aside {es : Trace} (h : ∀ e ∈ es, e.isAside) : es.decoded = [] :=
  filterMap_of_kind h fun e he => by cases e <;> first | rfl | cases he

theorem handled_eq (es : Trace) : es.handled = es.decoded.map (·.1) := by
  rw [decoded, List.map_filterMap]
  refine List.filterMap_congr fun e _ => ?_
  cases e <;> rfl

theorem length_routed (es : Trace) :
    es.routed.length = es.decoded.countP (·.2 = some .accepted) := by
  rw [List.countP_filterMap, List.length_filterMap_eq_countP]
  refine List.countP_congr fun e _ => ?_
  cases e <;> simp [RelayEvent.routed?, RelayEvent.decoded?]

theorem length_missed (es : Trace) : es.missed.length = es.decoded.countP (·.2 = none) := by
  rw [List.countP_filterMap, List.length_filterMap_eq_countP]
  refine List.countP_congr fun e _ => ?_
  cases e <;> simp [RelayEvent.missed?, RelayEvent.decoded?]

end Trace

namespace Relay

/-- What the mailbox says to a response, if somebody waits for it. -/
def verdict (r : Relay) (f : Frame) : Option Mailbox.Offer :=
  (r.pending.find? f.transactionId).map fun e =>
    match r.client? e.value.client with
    | some client => (client.mailbox.offer f).1
    | none => .closed

/-- The response that a move decodes, and what becomes of it. -/
def decoded (r : Relay) : Move → List (Frame × Option Mailbox.Offer)
  | .turn .route =>
    match r.routing, r.device.input.next.1 with
    | true, .item (.frame f) => [(f, r.verdict f)]
    | _, _ => []
  | _ => []

/-- The entries that leave the table with a move, and how. -/
def departures (r : Relay) : Move → List (WayOut × PendingEntry Requester)
  | .turn .route =>
    match r.routing, r.device.input.next.1 with
    | true, .item (.frame f) => WayOut.taken.leave (r.pending.find? f.transactionId).toList
    | true, .item (.failed _) | true, .finished => WayOut.cleared.leave r.pending.entries
    | _, _ => []
  | .turn .record =>
    match r.dispatcher with
    | .holding _ q =>
      WayOut.displaced.leave (r.pending.displacedFor q.transactionId q.requester r.clock)
        ++ WayOut.purged.leave (r.pending.purgedFor q.transactionId r.clock)
    | _ => []
  | .turn .write =>
    match r.dispatcher, r.device.writable with
    | .writing q, false => WayOut.unwritten.leave (r.pending.find? q.transactionId).toList
    | _, _ => []
  | _ => []

/-- The owners of the entries in the table. -/
def owners (r : Relay) : List (UInt16 × Requester) := r.pending.entries.map PendingEntry.owner

/-- The owners of the entries that leave the table with a move. -/
def departing (r : Relay) (m : Move) : List (UInt16 × Requester) :=
  (r.departures m).map (·.2.owner)

variable {r : Relay}

/-! ## The router -/

/-- The router's turn when a response has come. -/
theorem route_of_frame {f : Frame} {input : FrameReader} (hrouting : r.routing = true)
    (hnext : r.device.input.next = (.item (.frame f), input)) :
    (r.move (.turn .route)).1.pending = (r.pending.take f.transactionId).2 ∧
      Trace.recorded (r.move (.turn .route)).2 = [] ∧
      Trace.decoded (r.move (.turn .route)).2 = [(f, r.verdict f)] := by
  have hturn : r.turn? .route =
      some ({ r with device := { r.device with input } }.routeResponse f) := by
    simp only [turn?, route?, hrouting, if_true, hnext]
  rw [move_of_turn? hturn]
  unfold routeResponse verdict PendingTable.take
  cases hfind : r.pending.find? f.transactionId with
  | none => exact ⟨rfl, rfl, rfl⟩
  | some e =>
    unfold offer client?
    dsimp only [Option.map_some]
    cases r.clients[e.value.client]? with
    | none => exact ⟨rfl, rfl, rfl⟩
    | some client =>
      dsimp only
      rcases client.mailbox.offer f with ⟨_ | _ | _, mailbox⟩ <;> exact ⟨rfl, rfl, rfl⟩

/-- The router's turn when the device has ended between two frames. -/
theorem route_of_finished (hrouting : r.routing = true) (h : r.device.input.next.1 = .finished) :
    r.move (.turn .route) = (r.loseDevice.1, .deviceClosed :: r.loseDevice.2) := by
  rcases hnext : r.device.input.next with ⟨next, input⟩
  obtain rfl : next = .finished := by simpa [hnext] using h
  obtain rfl := FrameReader.next_eq_self hnext (by simp)
  refine move_of_turn? ?_
  rw [turn?, route?, if_pos hrouting, hnext]

/-- The router's turn when it comes to what is no frame. -/
theorem route_of_failed (hrouting : r.routing = true) {e : RelayError}
    (h : r.device.input.next.1 = .item (.failed e)) :
    r.move (.turn .route) = (r.loseDevice.1, .deviceReadFailed e :: r.loseDevice.2) := by
  rcases hnext : r.device.input.next with ⟨next, input⟩
  obtain rfl : next = .item (.failed e) := by simpa [hnext] using h
  obtain rfl := FrameReader.next_eq_self hnext (by simp)
  refine move_of_turn? ?_
  rw [turn?, route?, if_pos hrouting, hnext]

/-- The router's turn when the device has nothing more to say. -/
theorem route_of_end (hrouting : r.routing = true)
    (hnext : r.device.input.next.1 = .finished ∨ ∃ e, r.device.input.next.1 = .item (.failed e)) :
    (r.move (.turn .route)).1.pending = r.pending.clear ∧
      Trace.recorded (r.move (.turn .route)).2 = [] ∧
      Trace.decoded (r.move (.turn .route)).2 = [] := by
  rcases hnext with h | ⟨e, h⟩
  · rw [route_of_finished hrouting h]
    unfold loseDevice
    dsimp only
    split <;> exact ⟨rfl, rfl, rfl⟩
  · rw [route_of_failed hrouting h]
    unfold loseDevice
    dsimp only
    split <;> exact ⟨rfl, rfl, rfl⟩

/-- The router's turn when it has ended or has nothing to read. -/
theorem route_of_waiting (h : r.routing = false ∨ r.device.input.next.1 = .waiting) :
    r.move (.turn .route) = (r, []) := by
  refine move_of_turn?_none ?_
  simp only [turn?, route?]
  split
  · next hrouting =>
    rcases h with h | h
    · rw [hrouting] at h
      cases h
    · rw [h]
  · rfl

/-- What the router does to the table, to the entries that leave it, and to the response. -/
theorem route_balance (r : Relay) :
    r.owners.Perm ((r.move (.turn .route)).1.owners ++ r.departing (.turn .route)) ∧
      Trace.recorded (r.move (.turn .route)).2 = [] ∧
      Trace.decoded (r.move (.turn .route)).2 = r.decoded (.turn .route) := by
  unfold owners departing departures decoded
  cases hrouting : r.routing with
  | false =>
    rw [route_of_waiting (.inl hrouting)]
    simp
  | true =>
    rcases hnext : r.device.input.next with ⟨(f | e) | _ | _, input⟩
    · obtain ⟨hpending, hrecorded, hdecoded⟩ := route_of_frame hrouting hnext
      refine ⟨?_, hrecorded, hdecoded⟩
      rw [hpending, WayOut.owner_leave, ← List.map_append]
      exact (r.pending.entries_take_perm f.transactionId).map _
    · obtain ⟨hpending, hrecorded, hdecoded⟩ := route_of_end hrouting (.inr ⟨e, by rw [hnext]⟩)
      refine ⟨?_, hrecorded, hdecoded⟩
      rw [hpending, WayOut.owner_leave]
      exact .refl _
    · obtain ⟨hpending, hrecorded, hdecoded⟩ := route_of_end hrouting (.inl (by rw [hnext]))
      refine ⟨?_, hrecorded, hdecoded⟩
      rw [hpending, WayOut.owner_leave]
      exact .refl _
    · rw [route_of_waiting (.inr (by rw [hnext]))]
      simp

/-! ## The dispatcher -/

/-- What the dispatcher records and what leaves the table for it. -/
theorem record_balance (r : Relay) :
    ((Trace.recorded (r.move (.turn .record)).2).map Request.owner ++ r.owners).Perm
        ((r.move (.turn .record)).1.owners ++ r.departing (.turn .record)) ∧
      Trace.decoded (r.move (.turn .record)).2 = [] := by
  unfold owners departing departures
  cases hdispatcher : r.dispatcher with
  | holding _ q =>
    have hperm := (r.pending.entries_insert_perm q.transactionId q.requester r.clock).map
      PendingEntry.owner
    unfold PendingTable.recordedFor at hperm
    rw [List.map_append, List.map_append] at hperm
    dsimp only
    rw [List.map_append, WayOut.owner_leave, WayOut.owner_leave, ← List.map_append]
    unfold move turn? record?
    simp only [hdispatcher]
    rcases hins : r.pending.insert q.transactionId q.requester r.clock with
      ⟨cause | _ | orphan, pending⟩ <;> rw [hins] at hperm <;> exact ⟨hperm, rfl⟩
  | _ =>
    rw [move_of_turn?_none (by simp only [turn?, record?, hdispatcher])]
    simp

/-- A write records nothing; one that fails removes the entry of its id. -/
theorem write_balance (r : Relay) :
    r.owners.Perm ((r.move (.turn .write)).1.owners ++ r.departing (.turn .write)) ∧
      Trace.recorded (r.move (.turn .write)).2 = [] ∧
      Trace.decoded (r.move (.turn .write)).2 = [] := by
  unfold owners departing departures
  cases hdispatcher : r.dispatcher with
  | writing q =>
    unfold move turn? write?
    cases hwritable : r.device.writable with
    | true =>
      simp only [hdispatcher, hwritable]
      exact ⟨by simp, rfl, rfl⟩
    | false =>
      simp only [hdispatcher, hwritable]
      refine ⟨?_, rfl, rfl⟩
      rw [WayOut.owner_leave, ← List.map_append]
      exact (r.pending.entries_take_perm q.transactionId).map _
  | _ =>
    rw [move_of_turn?_none (by simp only [turn?, write?, hdispatcher])]
    simp

/-! ## Every move -/

/-- What a move records and finds in the table is afterwards in the table or has left it with the
move, and the response that it decodes is the one that it tells of. -/
theorem owners_balance_move (r : Relay) {m : Move} (hm : m.registers = false) :
    ((Trace.recorded (r.move m).2).map Request.owner ++ r.owners).Perm
        ((r.move m).1.owners ++ r.departing m) ∧
      Trace.decoded (r.move m).2 = r.decoded m := by
  by_cases hroute : m = .turn .route
  · subst hroute
    obtain ⟨hperm, hrecorded, hdecoded⟩ := r.route_balance
    rw [hrecorded]
    exact ⟨hperm, hdecoded⟩
  by_cases hrecord : m = .turn .record
  · subst hrecord
    exact r.record_balance
  by_cases hwrite : m = .turn .write
  · subst hwrite
    obtain ⟨hperm, hrecorded, hdecoded⟩ := r.write_balance
    rw [hrecorded]
    exact ⟨hperm, hdecoded⟩
  -- No other move touches the table.
  have hnone : r.departures m = [] ∧ r.decoded m = [] := by
    unfold departures decoded
    constructor <;> split <;> first | rfl | exact absurd rfl ‹_›
  unfold departing owners
  rw [hnone.1, hnone.2]
  have hs := step_move r m
  generalize (r.move m).1 = r' at hs ⊢
  generalize (r.move m).2 = es at hs ⊢
  have hkeep (hpending : r'.pending = r.pending) (hrecorded : Trace.recorded es = [])
      (hdecoded : Trace.decoded es = []) :
      ((Trace.recorded es).map Request.owner ++ r.pending.entries.map PendingEntry.owner).Perm
          (r'.pending.entries.map PendingEntry.owner ++
            ([] : List (WayOut × PendingEntry Requester)).map (·.2.owner)) ∧
        Trace.decoded es = [] := by
    rw [hpending, hrecorded]
    exact ⟨by simp, hdecoded⟩
  cases hs with
  | aside _ _ _ _ _ _ quiet =>
    exact hkeep rfl (Trace.recorded_aside quiet) (Trace.decoded_aside quiet)
  | registered => cases hm
  | deviceSent | deviceEnded => exact hkeep (by simp) rfl rfl
  | routed | lost => exact absurd rfl hroute
  | recorded | displaced | refused => exact absurd rfl hrecord
  | forwarded | unwritten => exact absurd rfl hwrite
  | _ => exact hkeep rfl rfl rfl

/-- The router takes the entry of the response that it decodes, if somebody waits for it. -/
theorem taken_of_move (r : Relay) (m : Move) :
    (r.departures m).filterMap taken? = (r.decoded m).filterMap awaited? := by
  have hleave (way : WayOut) (hway : way ≠ .taken) (es : List (PendingEntry Requester)) :
      (way.leave es).filterMap taken? = [] := by
    simp [WayOut.leave, taken?, hway]
  unfold departures decoded
  cases m with
  | input i => rfl
  | turn t =>
    cases t with
    | route =>
      cases r.routing with
      | false => rfl
      | true =>
        rcases r.device.input.next.1 with (f | e) | _ | _
        · dsimp only [verdict]
          cases hfind : r.pending.find? f.transactionId with
          | none => rfl
          | some e => simp [WayOut.leave, taken?, awaited?, PendingTable.id_of_find? hfind]
        · exact hleave _ (by simp) _
        · exact hleave _ (by simp) _
        · rfl
    | record =>
      cases r.dispatcher with
      | holding _ q =>
        dsimp only
        rw [List.filterMap_append, hleave _ (by simp), hleave _ (by simp)]
        rfl
      | _ => rfl
    | write =>
      cases r.dispatcher with
      | writing q =>
        cases r.device.writable with
        | true => rfl
        | false => exact hleave _ (by simp) _
      | _ => rfl
    | _ => rfl

/-! ## Runs -/

/-- Every entry that was recorded in a run is in the table or has left it. -/
theorem owners_balance (hr : r.Fresh) {ms : List Move} (honly : OnlyDispatcherRecords ms) :
    ((r.trace ms).recorded.map Request.owner).Perm
      ((r.final ms).owners ++ (r.yields departures ms).map (·.2.owner)) := by
  have hnone : r.owners = [] := by rw [owners, hr.entries, List.map_nil]
  have hrun := balance_of_moves owners (fun s m => (Trace.recorded (s.move m).2).map Request.owner)
    departing (r := r) fun ps m hm =>
      (owners_balance_move (r.final ps) (honly m (hm.subset (by simp)))).1
  have hrecorded : r.yields (fun s m => (Trace.recorded (s.move m).2).map Request.owner) ms =
      (r.trace ms).recorded.map Request.owner := by
    rw [yields_map, yields_events]
  have hdeparting : r.yields departing ms = (r.yields departures ms).map (·.2.owner) :=
    yields_map departures _ r ms
  rw [hnone, List.append_nil, hrecorded, hdeparting] at hrun
  exact hrun

theorem yields_decoded (r : Relay) {ms : List Move} (honly : OnlyDispatcherRecords ms) :
    r.yields decoded ms = (r.trace ms).decoded :=
  yields_eq_filterMap _ _ fun ps m hm =>
    (owners_balance_move (r.final ps) (honly m (hm.subset (by simp)))).2.symm

theorem taken_eq_decoded (r : Relay) (ms : List Move) :
    (r.yields departures ms).filterMap taken? = (r.yields decoded ms).filterMap awaited? := by
  rw [← yields_filterMap, ← yields_filterMap]
  congr 1
  funext s m
  exact s.taken_of_move m

/-! ## The books -/

/-- The books of a table: what was recorded is in the table or has left it on one of five ways, and
the responses that the router has read came to one of four ends. -/
structure AddsUp (t : PendingTable Requester) (es : Trace)
    (out : List (WayOut × PendingEntry Requester))
    (read : List (Frame × Option Mailbox.Offer)) : Prop where
  /-- One by one, and by number. -/
  owners : (es.recorded.map Request.owner).Perm
    ((t.entries ++ out.map (·.2)).map PendingEntry.owner)
  entries : es.recorded.length = t.size + out.countP (·.1 = .taken) + out.countP (·.1 = .displaced)
    + out.countP (·.1 = .purged) + out.countP (·.1 = .unwritten) + out.countP (·.1 = .cleared)
  /-- Of each response the events tell what became of it. -/
  told : read = es.decoded
  handled : read.map (·.1) = es.handled
  responses : read.length = (Metrics.ofEvents es).routed + (Metrics.ofEvents es).misses
    + read.countP (·.2 = some .closed) + read.countP (·.2 = some .full)
  /-- The entries that the router has taken are those of the responses that were no misses. -/
  awaited : out.filterMap taken? = read.filterMap awaited?
  taken : out.countP (·.1 = .taken) = (Metrics.ofEvents es).routed
    + read.countP (·.2 = some .closed) + read.countP (·.2 = some .full)

/-- What has left the table has left it on one of the five ways. -/
theorem length_by_way (out : List (WayOut × PendingEntry Requester)) :
    out.length = out.countP (·.1 = .taken) + out.countP (·.1 = .displaced)
      + out.countP (·.1 = .purged) + out.countP (·.1 = .unwritten)
      + out.countP (·.1 = .cleared) := by
  induction out with
  | nil => rfl
  | cons x out ih =>
    obtain ⟨way, e⟩ := x
    cases way <;> simp only [List.countP_cons, List.length_cons, ih] <;> simp <;> omega

/-- What was read came to one of the four ends. -/
theorem length_by_end (read : List (Frame × Option Mailbox.Offer)) :
    read.length = read.countP (·.2 = none) + read.countP (·.2 = some .accepted)
      + read.countP (·.2 = some .closed) + read.countP (·.2 = some .full) := by
  induction read with
  | nil => rfl
  | cons x read ih =>
    obtain ⟨f, _ | _ | _ | _⟩ := x <;> simp only [List.countP_cons, List.length_cons, ih] <;>
      simp <;> omega

/-- The books are right if entry by entry and response by response they are. -/
theorem addsUp_of {t : PendingTable Requester} {es : Trace}
    {out : List (WayOut × PendingEntry Requester)}
    (howners : (es.recorded.map Request.owner).Perm
      ((t.entries ++ out.map (·.2)).map PendingEntry.owner))
    (hawaited : out.filterMap taken? = es.decoded.filterMap awaited?) :
    AddsUp t es out es.decoded := by
  have hrouted : (Metrics.ofEvents es).routed = es.decoded.countP (·.2 = some .accepted) := by
    rw [Metrics.routed_ofEvents, es.length_routed]
  have hmissed : (Metrics.ofEvents es).misses = es.decoded.countP (·.2 = none) := by
    rw [Metrics.misses_ofEvents, es.length_missed]
  have hends := length_by_end es.decoded
  have htaken : out.countP (·.1 = .taken) + es.decoded.countP (·.2 = none) =
      es.decoded.length := by
    have hlength := congrArg List.length hawaited
    rw [List.length_filterMap_eq_countP, List.length_filterMap_eq_countP] at hlength
    have hout : out.countP (·.1 = .taken) = out.countP fun x => (taken? x).isSome :=
      List.countP_congr fun x _ => by simp [taken?]
    have hread : es.decoded.countP (·.2 = none) =
        es.decoded.countP fun x => ¬(awaited? x).isSome = true :=
      List.countP_congr fun x _ => by simp [awaited?]
    rw [hout, hlength, hread, ← List.length_eq_countP_add_countP]
  refine ⟨howners, ?_, rfl, es.handled_eq.symm, by omega, hawaited, by omega⟩
  have hlength := howners.length_eq
  have hways := length_by_way out
  simp only [List.length_map, List.length_append] at hlength
  unfold PendingTable.size
  omega

theorem addsUp (hr : r.Fresh) {ms : List Move} (honly : OnlyDispatcherRecords ms) :
    AddsUp (r.final ms).pending (r.trace ms) (r.yields departures ms) (r.yields decoded ms) := by
  have hawaited := r.taken_eq_decoded ms
  rw [r.yields_decoded honly] at hawaited ⊢
  refine addsUp_of ?_ hawaited
  rw [List.map_append, List.map_map]
  exact owners_balance hr honly

/-! ## Shutdown -/

/-- Around the run of its workers a shutdown tells only of the instance as a whole. -/
theorem filterMap_shutdown {β : Type} {kind : RelayEvent → Option β}
    (stopping : ∀ a, kind (.stopping a) = none) (discarded : ∀ n, kind (.discarded n) = none)
    (stopped : ∀ a, kind (.stopped a) = none) (pending : ∀ n, kind (.pending n) = none)
    (i : Instance) :
    i.shutdown.2.filterMap kind = (i.relay.after .cancel).2.filterMap kind := by
  have hlater (s : Relay) : (Instance.clearRelay s).2.filterMap kind = [] := by
    unfold Instance.clearRelay
    dsimp only
    split <;> simp [discarded, pending]
  unfold Instance.shutdown
  dsimp only
  rw [List.filterMap_append, List.filterMap_append, List.filterMap_append, hlater]
  simp [stopping, stopped]

/-- What a shutdown leaves of the table. -/
theorem pending_shutdown (i : Instance) :
    i.shutdown.1.relay.pending = (i.relay.after .cancel).1.pending.clear := rfl

/-- **No entry and no response is unaccounted for.** In every run in which only the dispatcher
records, whether the relay is cancelled in it or not, the entries recorded are those in the table
and those that have left it: taken by the router, displaced, purged, removed after a failed write or
cleared. The responses decoded are those routed, those missed and those for which the mailbox was
closed or full; and all but the misses have taken an entry. The same holds of an instance that is
shut down after such a run: what its workers have left in the table is cleared. -/
theorem entries_and_responses_add_up (hr : r.Fresh) {ms : List Move}
    (honly : OnlyDispatcherRecords ms) :
    AddsUp (r.final ms).pending (r.trace ms) (r.yields departures ms) (r.yields decoded ms) ∧
    ∀ i : Instance, i.relay = r.final ms → ∃ ns, OnlyDispatcherRecords ns ∧
      i.relay.after .cancel = i.relay.run (.input .cancel :: ns) ∧
      i.shutdown.1.relay.pending.size = 0 ∧
      AddsUp i.shutdown.1.relay.pending (r.trace ms ++ i.shutdown.2)
        (r.yields departures (ms ++ .input .cancel :: ns)
          ++ WayOut.cleared.leave (i.relay.after .cancel).1.pending.entries)
        (r.yields decoded (ms ++ .input .cancel :: ns)) := by
  refine ⟨addsUp hr honly, fun i hi => ?_⟩
  obtain ⟨ns, hns, hrun⟩ := i.relay.after_eq_run .cancel
  have hsettles : OnlyDispatcherRecords ns := onlyDispatcherRecords_of_settles hns
  have hall : OnlyDispatcherRecords (ms ++ .input .cancel :: ns) := honly.cancel hsettles
  have hfinal : (i.relay.after .cancel).1 = r.final (ms ++ .input .cancel :: ns) := by
    rw [hrun, final_append, ← hi]
    rfl
  have htrace {β : Type} {kind : RelayEvent → Option β} (stopping : ∀ a, kind (.stopping a) = none)
      (discarded : ∀ n, kind (.discarded n) = none) (stopped : ∀ a, kind (.stopped a) = none)
      (pending : ∀ n, kind (.pending n) = none) :
      (r.trace ms ++ i.shutdown.2).filterMap kind =
        (r.trace (ms ++ .input .cancel :: ns)).filterMap kind := by
    rw [List.filterMap_append, filterMap_shutdown stopping discarded stopped pending, hrun, hi,
      trace_append, List.filterMap_append]
    rfl
  have hrecorded : Trace.recorded (r.trace ms ++ i.shutdown.2) =
      (r.trace (ms ++ .input .cancel :: ns)).recorded :=
    htrace (fun _ => rfl) (fun _ => rfl) (fun _ => rfl) fun _ => rfl
  have hdecoded : Trace.decoded (r.trace ms ++ i.shutdown.2) =
      r.yields decoded (ms ++ .input .cancel :: ns) := by
    rw [r.yields_decoded hall]
    exact htrace (fun _ => rfl) (fun _ => rfl) (fun _ => rfl) fun _ => rfl
  refine ⟨ns, hsettles, hrun, rfl, ?_⟩
  rw [← hdecoded]
  refine addsUp_of ?_ ?_
  · rw [hrecorded, pending_shutdown, hfinal]
    have howners := owners_balance hr hall
    simp only [PendingTable.clear, List.nil_append, List.map_append, List.map_map]
    refine howners.trans (List.perm_append_comm.trans ?_)
    refine List.Perm.append_left _ ?_
    rw [owners, ← WayOut.owner_leave .cleared]
    exact .refl _
  · rw [hdecoded, ← r.taken_eq_decoded]
    simp [WayOut.leave, taken?]

/-- The shortest request, or response, with an id below 256. -/
def shortFrame (id : UInt8) : List UInt8 := [0, id, 0, 0, 0, 2, 1, 3]

/-- A client sends requests, and each is read, taken, recorded and written. -/
def exchange (c : Nat) (ids : List UInt8) : List Move :=
  .input (.clientSends c (ids.flatMap shortFrame)) ::
    ids.flatMap fun _ => [.turn (.intake c), .turn .take, .turn .record, .turn .write]

/-- The device sends responses, and the router reads them. -/
def respond (ids : List UInt8) : List Move :=
  .input (.deviceSends (ids.flatMap shortFrame)) :: ids.map fun _ => .turn .route

/-- Room for two entries and for one response in each mailbox. -/
def cramped : Relay :=
  ofSettings { duplicatePolicy := .replace, maxPending := 2, clientQueueCapacity := 1 }

/-- A second request displaces the first of its id, and of two responses one is routed and one
missed. Then a mailbox is full and another closed, two entries grow old and are purged, the device
ends, and after one more request it breaks. -/
def everyFate : List Move :=
  [ .input (.serve ⟨.v4 10 0 0 9, 40000⟩), .input (.serve ⟨.v4 10 0 0 8, 40001⟩),
    .turn (.begin 0), .turn (.begin 1), .input .startDispatcher ]
    ++ exchange 0 [1, 1] ++ respond [1, 1] ++ exchange 0 [2] ++ respond [2]
    ++ exchange 1 [3] ++ [.input (.clientCloses 1), .turn (.intake 1)] ++ respond [3]
    ++ exchange 0 [4, 5] ++ [.input (.wait 5000000)] ++ exchange 0 [6]
    ++ [.input (.deviceEnds .closed), .turn .route] ++ exchange 0 [8] ++ [.input .deviceBreaks]
    ++ exchange 0 [7]

/-- Of nine entries one is left, which a shutdown clears, and four responses come to four ends. -/
theorem books_of_everyFate :
    let es := cramped.trace everyFate
    let i : Instance := ⟨⟨.v4 0 0 0 0, 5020⟩, ⟨.v4 127 0 0 1, 502⟩, cramped.final everyFate⟩
    cramped.Fresh ∧ OnlyDispatcherRecords everyFate ∧
      es.recorded.length = 1 + 3 + 1 + 2 + 1 + 1 ∧ es.handled.length = 1 + 1 + 1 + 1 ∧
      i.relay.pending.size = 1 ∧ i.shutdown.1.relay.pending.size = 0 := by
  intro es i
  have hr : cramped.Fresh := fresh_ofSettings _
  have honly : OnlyDispatcherRecords everyFate := by decide +kernel
  obtain ⟨hbooks, hshutdown⟩ := entries_and_responses_add_up hr honly
  have hi : i.relay = cramped.final everyFate := by dsimp only [i]
  obtain ⟨ns, -, -, hcleared, -⟩ := hshutdown i hi
  refine ⟨hr, honly, hbooks.entries.trans ?_, ?_, ?_, hcleared⟩
  · decide +kernel
  · rw [← hbooks.handled, List.length_map, hbooks.responses]
    decide +kernel
  · decide +kernel

end Relay

end ModbusRelay
