import ModbusRelay.Proofs.Relay.Besides

/-!
Clients are isolated from each other.

What there is to see of a run besides client `c` follows from the moves of the others and the
requests that `c` queues, each where it comes on the queue (`seen`): going through these with
nothing known about `c` gives the same relay, besides `c`, and the same events (`replay_seen`). So
two runs in which `c` queues the same requests at the same points look the same to everybody else,
whatever else `c` does in them and whatever becomes of its responses (`clients_are_isolated`).
-/

namespace ModbusRelay

/-- One thing in a run that matters to others than client `c`. -/
inductive Sight where
  /-- A move that is none of `c`. -/
  | moved (m : Move)
  /-- Client `c` has a request put on the queue. -/
  | queued (priority : Priority) (request : Request)
  deriving DecidableEq

namespace Relay

/-! ## What is seen -/

/-- What matters of a move. -/
def sights (r : Relay) (c : Nat) (m : Move) : List Sight :=
  if m.client? = some c then (Trace.queued (r.move m).2).map fun x => .queued x.1 x.2
  else [.moved m]

/-- What matters of a run: the moves of the others, and the requests that client `c` queues. -/
def seen (r : Relay) (c : Nat) : List Move → List Sight
  | [] => []
  | m :: ms => r.sights c m ++ (r.move m).1.seen c ms

/-- The relay after what matters has happened, without what only client `c` can see. -/
def replay (c : Nat) (r : Relay) : List Sight → Outcome
  | [] => (r, [])
  | s :: ss =>
    let (r, events) :=
      match s with
      | .moved m => (r.move m).besides c
      | .queued p q => r.enqueue [(p, q)]
    let (r, later) := replay c r ss
    (r, events ++ later)

variable (r : Relay) (c : Nat)

theorem seen_append (ms ns : List Move) :
    r.seen c (ms ++ ns) = r.seen c ms ++ (r.final ms).seen c ns := by
  induction ms generalizing r with
  | nil => rfl
  | cons m ms ih =>
    rw [List.cons_append, seen, seen, ih, List.append_assoc]
    rfl

theorem replay_append (ss ts : List Sight) :
    replay c r (ss ++ ts) = ((replay c (replay c r ss).1 ts).1,
      (replay c r ss).2 ++ (replay c (replay c r ss).1 ts).2) := by
  induction ss generalizing r with
  | nil => rfl
  | cons s ss ih => simp [replay, ih]

/-- Of each move there is at most one thing that matters. -/
theorem length_sights (m : Move) : (r.sights c m).length ≤ 1 := by
  unfold sights
  split
  · next hm =>
    rw [List.length_map]
    exact (onlyQueues_move r m hm).atMostOne
  · exact Nat.le_refl 1

/-! ## What follows from it -/

/-- One move, by the three kinds of moves. -/
theorem replay_sights (m : Move) :
    replay c (r.besides c) (r.sights c m) = (r.move m).besides c := by
  unfold sights
  split
  · next hm =>
    obtain ⟨hseen, hone⟩ := onlyQueues_move r m hm
    rw [hseen]
    match Trace.queued (r.move m).2, hone with
    | [], _ => rfl
    | [x], _ => rfl
  · next hm =>
    have hmoved : Outcome.besides ((r.besides c).move m) c = (r.move m).besides c := by
      cases hd : m.client? with
      | none => exact besides_move r c m hd
      | some d =>
        have hne : c ≠ d := fun h => hm (by rw [hd, h])
        rw [besides, move_withOther r hne Client.shell Acceptor.shell m hd]
        exact besides_same c rfl
    simp [replay, hmoved]

/-- What there is to see of a run besides client `c` follows from what is seen of its moves. -/
theorem replay_seen (ms : List Move) :
    replay c (r.besides c) (r.seen c ms) = (r.run ms).besides c := by
  induction ms generalizing r with
  | nil => rfl
  | cons m ms ih =>
    rw [seen, replay_append, replay_sights]
    show (_, Trace.besides (r.move m).2 c ++ (replay c ((r.move m).1.besides c) _).2) = _
    rw [show (Outcome.besides (r.move m) c).1 = (r.move m).1.besides c from rfl, ih]
    exact Prod.ext rfl (Trace.besides_append _ _ c).symm

/-- Each beginning of what is seen of a run is what is seen of a beginning of the run. -/
theorem exists_seen_eq_take (ms : List Move) (k : Nat) :
    ∃ n, r.seen c (ms.take n) = (r.seen c ms).take k := by
  induction ms generalizing r k with
  | nil => exact ⟨0, by simp [seen]⟩
  | cons m ms ih =>
    have hone := length_sights r c m
    cases k with
    | zero => exact ⟨0, rfl⟩
    | succ k =>
      obtain ⟨n, hn⟩ := ih (r.move m).1 (k + 1 - (r.sights c m).length)
      have hall : (r.sights c m).take (k + 1) = r.sights c m := List.take_of_length_le (by omega)
      refine ⟨n + 1, ?_⟩
      rw [List.take_succ_cons, seen, seen, hn, List.take_append, hall]

end Relay

/-! ## Two runs -/

/-- Besides client `c` the outcomes are the same. -/
structure SameBesides (c : Nat) (o o' : Relay.Outcome) : Prop where
  /-- What the device has got, and what it has sent. -/
  device : o'.1.device = o.1.device
  /-- The requests in flight: their ids, their requesters and their times. -/
  pending : o'.1.pending = o.1.pending
  /-- The sessions of the others, their mailboxes and what they have got. -/
  clients : ∀ d, d ≠ c → o'.1.client? d = o.1.client? d
  /-- All responses that have gone into the mailboxes of the others. -/
  inboxed : ∀ d, d ≠ c → Trace.inboxed o'.2 d = Trace.inboxed o.2 d
  /-- The whole relay, but for what only `c` and its session can see, and for how long the acceptor
  waits for the sessions once it has closed the listener. -/
  relay : o'.1.besides c = o.1.besides c
  /-- All that has happened, but for what is about the session and the mailbox of `c`, and for the
  end of the acceptor. -/
  events : Trace.besides o'.2 c = Trace.besides o.2 c

/-- What goes into the mailboxes of others can be seen besides client `c`. -/
theorem Trace.inboxed_besides (es : Trace) {c d : Nat} (hd : d ≠ c) :
    Trace.inboxed (es.besides c) d = es.inboxed d := by
  unfold inboxed routed besides
  rw [List.filterMap_filter, List.filter_filterMap, List.filter_filterMap]
  congr 2
  funext e
  by_cases habout : e.about? = some c
  · have hother : e.routed?.filter (·.1.client = d) = none := by
      cases e with
      | routed who f =>
        obtain rfl : who.client = c := Option.some.inj habout
        simp [RelayEvent.routed?, Ne.symm hd]
      | _ => rfl
    rw [hother]
    simp [habout]
  · by_cases hstopped : e = .acceptorStopped
    · simp [hstopped, RelayEvent.routed?]
    · simp [habout, hstopped]

theorem SameBesides.of_besides {c : Nat} {o o' : Relay.Outcome}
    (h : o'.besides c = o.besides c) : SameBesides c o o' := by
  have hrelay : o'.1.besides c = o.1.besides c := congrArg Prod.fst h
  have hevents : Trace.besides o'.2 c = Trace.besides o.2 c := congrArg Prod.snd h
  have hdevice := congrArg Relay.device hrelay
  have hpending := congrArg Relay.pending hrelay
  refine ⟨hdevice, hpending, fun d hd => ?_, fun d hd => ?_, hrelay, hevents⟩
  · have hclient := congrArg (·.client? d) hrelay
    simp only [Relay.client?_besides, Ne.symm hd, if_false, Option.map_id'] at hclient
    exact hclient
  · rw [← Trace.inboxed_besides o'.2 hd, ← Trace.inboxed_besides o.2 hd, hevents]

namespace Relay

/-- **No client is disturbed by another.** Take two runs in which the others do the same and client
`c` queues the same requests at the same points, in between the same moves. Whatever else `c` does
in them, and whether its responses find its mailbox open, full or closed: at the end, and whenever
the runs have come equally far, the device has got the same bytes, the same requests are in flight
for the same requesters, and every other client has the same session, has been given the same
responses and has got the same bytes. -/
theorem clients_are_isolated (r : Relay) (c : Nat) {ms ms' : List Move}
    (h : r.seen c ms' = r.seen c ms) :
    SameBesides c (r.run ms) (r.run ms') ∧
      ∀ n, ∃ n', r.seen c (ms'.take n') = r.seen c (ms.take n) ∧
        SameBesides c (r.run (ms.take n)) (r.run (ms'.take n')) := by
  have hsame {ns ns' : List Move} (hseen : r.seen c ns' = r.seen c ns) :
      SameBesides c (r.run ns) (r.run ns') := by
    refine .of_besides ?_
    rw [← replay_seen, ← replay_seen, hseen]
  refine ⟨hsame h, fun n => ?_⟩
  obtain ⟨n', hn'⟩ := exists_seen_eq_take r c ms' (r.seen c (ms.take n)).length
  have hall : r.seen c ms = r.seen c (ms.take n) ++ (r.final (ms.take n)).seen c (ms.drop n) := by
    rw [← seen_append, List.take_append_drop]
  have hseen : r.seen c (ms'.take n') = r.seen c (ms.take n) := by
    rw [hn', h, hall, List.take_left]
  exact ⟨n', hseen, hsame hseen⟩

/-- Two clients, of which the first asks twice and the second once; what the first does before the
device answers, and what its session does before the device answers it a second time, is given. -/
def neighbours (before meanwhile : List Move) : List Move :=
  [ .input (.serve ⟨.v4 10 0 0 9, 40000⟩), .turn (.begin 0),
    .input (.serve ⟨.v4 10 0 0 8, 40001⟩), .turn (.begin 1),
    .input (.clientSends 0 [0, 7, 0, 0, 0, 2, 1, 3, 0, 8, 0, 0, 0, 2, 1, 4]),
    .turn (.intake 0), .turn (.intake 0),
    .input (.clientSends 1 [0, 9, 0, 0, 0, 2, 1, 5]), .turn (.intake 1) ]
  ++ before
  ++ [ .input .startDispatcher, .turn .take, .turn .record, .turn .write,
    .turn .take, .turn .record, .turn .write, .turn .take, .turn .record, .turn .write,
    .input (.deviceSends [0, 7, 0, 0, 0, 2, 1, 6, 0, 8, 0, 0, 0, 2, 1, 7, 0, 9, 0, 0, 0, 2, 1, 8]),
    .turn .route ]
  ++ meanwhile
  ++ [.turn .route, .turn .route, .turn (.fetch 1), .turn (.deliver 1)]

/-- A relay whose mailboxes hold one response. -/
def narrow : Relay := ofSettings { clientQueueCapacity := 1 }

/-- The first client takes its responses, or leaves them in its mailbox so that the second one finds
it full, or is gone before them; the second client does not notice. -/
theorem neighbour_is_isolated :
    let attentive := neighbours [] [.turn (.fetch 0), .turn (.deliver 0)]
    let idle := neighbours [] []
    let gone := neighbours [.input (.clientCloses 0), .turn (.intake 0)] []
    narrow.seen 0 idle = narrow.seen 0 attentive ∧ narrow.seen 0 gone = narrow.seen 0 attentive ∧
      (Trace.inboxed (narrow.trace attentive) 0).length = 2 ∧
      (Trace.inboxed (narrow.trace idle) 0).length = 1 ∧
      (Trace.inboxed (narrow.trace gone) 0).length = 0 ∧
      (Trace.inboxed (narrow.trace attentive) 1).length = 1 ∧
      SameBesides 0 (narrow.run attentive) (narrow.run idle) ∧
      SameBesides 0 (narrow.run attentive) (narrow.run gone) := by
  intro attentive idle gone
  have hidle : narrow.seen 0 idle = narrow.seen 0 attentive := by decide +kernel
  have hgone : narrow.seen 0 gone = narrow.seen 0 attentive := by decide +kernel
  refine ⟨hidle, hgone, by decide +kernel, by decide +kernel, by decide +kernel, by decide +kernel,
    ?_, ?_⟩
  · exact (clients_are_isolated narrow 0 hidle).1
  · exact (clients_are_isolated narrow 0 hgone).1

end Relay

end ModbusRelay
