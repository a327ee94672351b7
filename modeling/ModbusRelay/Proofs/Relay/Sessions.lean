import ModbusRelay.Proofs.Relay.Account
import ModbusRelay.Proofs.Relay.Clients

/-!
Which sessions have begun and which have ended.

A connection goes through its phases in one direction, and `PhaseStep` lists the moves that take it
from one to the next (`phaseStep`). A session begins when its connection comes into the phase
`serving`, and it ends when it leaves that phase; how it ends depends on what it finds on its last
turn (`endOf`). So at any time the sessions that have begun are those that serve and those that have
ended (`sessions_balance`), and none begins twice (`nodup_begins`). Each move tells in its events
just what begins and what ends with it (`told_of_move`).
-/

namespace ModbusRelay

/-- How a session ends. -/
inductive SessionEnd where
  /-- The client has ended what it sends, between two frames. -/
  | finished
  /-- What the client sends cannot be read, or is no frame or half of one. -/
  | readFailed (cause : RelayError)
  /-- A response cannot be written. -/
  | writeFailed
  /-- The relay has been cancelled. -/
  | stopped
  deriving DecidableEq

/-- Does the session end with a failure? -/
def SessionEnd.failed : SessionEnd → Bool
  | .readFailed _ | .writeFailed => true
  | .finished | .stopped => false

/-- The session, if it has ended with a failure. -/
def SessionEnd.failed? (x : Nat × SessionEnd) : Option Nat :=
  if x.2.failed then some x.1 else none

namespace RelayEvent

/-- The session that begins. -/
def connected? : RelayEvent → Option Nat
  | .connected who _ => some who.client
  | _ => none

/-- The session that is over. -/
def disconnected? : RelayEvent → Option Nat
  | .disconnected who => some who.client
  | _ => none

/-- The session that has failed. -/
def sessionFailed? : RelayEvent → Option Nat
  | .readFailed who _ | .writeFailed who _ _ => some who.client
  | _ => none

/-- Does the event say nothing about a beginning or an end of a session? -/
def isBetween : RelayEvent → Bool
  | .connected .. | .disconnected _ | .readFailed .. | .writeFailed .. => false
  | _ => true

end RelayEvent

/-- Is it a turn of a session? -/
def Move.ofSession : Move → Bool
  | .turn (.begin _) | .turn (.intake _) | .turn (.fetch _) | .turn (.deliver _)
  | .turn (.stopSession _) => true
  | _ => false

namespace Relay

/-- How far the connection of a client has come, if it has one. -/
def phaseOf (r : Relay) (c : Nat) : Option SessionPhase := (r.client? c).bind Client.phase?

/-- The sessions that serve their clients. -/
def serving (r : Relay) : List Nat :=
  (List.range r.clients.length).filter (r.phaseOf · = some .serving)

/-- The sessions that begin with a move. -/
def begins (r : Relay) (m : Move) : List Nat :=
  (r.move m).1.serving.filter (· ∉ r.serving)

/-- How a session ends, given that it does with this move. -/
def endOf (r : Relay) (c : Nat) : Move → SessionEnd
  | .turn (.intake _) =>
    match (r.client? c).bind Client.reader? with
    | some unread =>
      match unread.next.1 with
      | .item (.failed cause) => .readFailed cause
      | _ => .finished
    | none => .finished
  | .turn (.deliver _) => .writeFailed
  | _ => .stopped

/-- The sessions that end with a move, and how. -/
def ends (r : Relay) (m : Move) : List (Nat × SessionEnd) :=
  (r.serving.filter (· ∉ (r.move m).1.serving)).map fun c => (c, r.endOf c m)

variable {r r' : Relay} {c : Nat}

theorem mem_serving : c ∈ r.serving ↔ r.phaseOf c = some .serving := by
  unfold serving
  rw [List.mem_filter, List.mem_range, decide_eq_true_iff]
  refine and_iff_right_of_imp fun h => ?_
  obtain ⟨x, hx, -⟩ := Option.bind_eq_some_iff.mp h
  exact (List.getElem?_eq_some_iff.mp hx).1

theorem nodup_serving (r : Relay) : r.serving.Nodup := List.nodup_range.filter _

/-! ## Phases -/

/-- What a move can do to the phase of the connection of client `c`. -/
inductive PhaseStep (r : Relay) (c : Nat) :
    Move → Option SessionPhase → Option SessionPhase → Prop where
  | same {m : Move} {p : Option SessionPhase} : PhaseStep r c m p p
  | served {peer : SocketAddress} : PhaseStep r c (.input (.serve peer)) none (some .accepted)
  | dialled {peer : SocketAddress} (listener : r.acceptor.hasListener = true) :
      PhaseStep r c (.input (.dial peer)) none (some .waiting)
  | accepted : PhaseStep r c (.turn .accept) (some .waiting) (some .accepted)
  | began : PhaseStep r c (.turn (.begin c)) (some .accepted) (some .serving)
  | ended {m : Move} (own : m.ofSession = true) : PhaseStep r c m (some .serving) (some .ended)
  | turnedAway : PhaseStep r c (.turn .stopAcceptor) (some .waiting) (some .ended)

/-- Only its own turns make a session serve or stop serving. -/
theorem PhaseStep.serving_iff {m : Move} {p p' : Option SessionPhase} (h : PhaseStep r c m p p')
    (hm : m.ofSession = false) : p' = some .serving ↔ p = some .serving := by
  cases h with
  | same => rfl
  | began => cases hm
  | ended own =>
    rw [own] at hm
    cases hm
  | _ => simp

theorem phaseOf_withClient (r : Relay) (c d : Nat) (change : Client → Client) :
    (r.withClient c change).phaseOf d =
      if c = d then (r.client? d).bind (change · |>.phase?) else r.phaseOf d := by
  unfold phaseOf
  rw [client?_withClient]
  split
  · cases r.client? d <;> rfl
  · rfl

theorem phaseOf_of_client? {x : Client} (found : r.client? c = some x) :
    r.phaseOf c = x.phase? := by
  rw [phaseOf, found]
  rfl

theorem phaseOf_withClient_of_same {change : Client → Client}
    (h : ∀ x, (change x).phase? = x.phase?) (d : Nat) :
    (r.withClient c change).phaseOf d = r.phaseOf d := by
  rw [phaseOf_withClient]
  simp only [h]
  exact ite_self _

theorem phaseOf_of_clients (h : r'.clients = r.clients) (c : Nat) : r'.phaseOf c = r.phaseOf c := by
  rw [phaseOf, phaseOf, client?, client?, h]

theorem phaseOf_addClient (r : Relay) (peer : SocketAddress) (k : Option Connection) (c : Nat) :
    (r.addClient peer k).2.phaseOf c = r.phaseOf c ∨
      r.phaseOf c = none ∧ (r.addClient peer k).2.phaseOf c = k.map (·.phase) := by
  unfold phaseOf
  rcases r.client?_addClient peer k c with h | ⟨hnone, hnew⟩
  · exact .inl (by rw [h])
  · exact .inr ⟨by rw [hnone, Option.bind_none], by rw [hnew, Option.bind_some, Client.phase?]⟩

theorem phaseOf_offer (r : Relay) (who : Requester) (f : Frame) (c : Nat) :
    (r.offer who f).1.phaseOf c = r.phaseOf c := by
  unfold offer
  split
  · rfl
  · exact phaseOf_withClient_of_same (fun x => by rfl) c

theorem Reached.phaseStep {i : Input} (h : Reached r i r') (c : Nat) :
    PhaseStep r c (.input i) (r.phaseOf c) (r'.phaseOf c) := by
  have hsame {s : Relay} (h : s.phaseOf c = r.phaseOf c) :
      PhaseStep r c (.input i) (r.phaseOf c) (s.phaseOf c) := h ▸ .same
  cases h with
  | nobody same => exact hsame (phaseOf_of_clients same c)
  | client phase => exact hsame (phaseOf_withClient_of_same phase c)
  | @attached peer =>
    rcases phaseOf_addClient r peer none c with h | ⟨hnone, hnew⟩
    · exact hsame h
    · exact hsame (hnew.trans hnone.symm)
  | @served peer =>
    rcases phaseOf_addClient r peer (some { phase := .accepted }) c with h | ⟨hnone, hnew⟩
    · exact hsame h
    · rw [hnone, hnew]
      exact .served
  | @dialled peer listener =>
    rcases phaseOf_addClient r peer (some { phase := .waiting }) c with h | ⟨hnone, hnew⟩
    · exact hsame h
    · rw [hnone, hnew]
      exact .dialled listener

theorem Turned.phaseStep {t : Turn} {es : List RelayEvent} (h : Turned r t r' es) (c : Nat) :
    PhaseStep r c (.turn t) (r.phaseOf c) (r'.phaseOf c) := by
  have hsame {s : Relay} (h : s.phaseOf c = r.phaseOf c) :
      PhaseStep r c (.turn t) (r.phaseOf c) (s.phaseOf c) := h ▸ .same
  -- A change of the phase of the one client that the turn has found.
  have hchange {d : Nat} {x : Client} {change : Client → Client} (found : r.client? d = some x)
      (hstep : PhaseStep r d (.turn t) x.phase? (change x).phase?) :
      PhaseStep r c (.turn t) (r.phaseOf c) ((r.withClient d change).phaseOf c) := by
    rw [phaseOf_withClient]
    split
    · next hcd =>
      subst hcd
      rw [phaseOf_of_client? found, found]
      exact hstep
    · exact .same
  have hphase {x : Client} {before after : SessionPhase} (h : x.phase? = some before) :
      (x.withConnection ({ · with phase := after })).phase? = some after := by
    obtain ⟨k, hk, -⟩ := Option.map_eq_some_iff.mp h
    simp [Client.phase?, Client.withConnection, hk]
  have hhungUp {d : Nat} {x : Client} (found : r.client? d = some x)
      (serving : x.phase? = some .serving) (own : (Move.turn t).ofSession = true) :
      PhaseStep r c (.turn t) (r.phaseOf c) ((r.withClient d (·.hangUp)).phaseOf c) := by
    refine hchange found ?_
    obtain ⟨k, hk, -⟩ := Option.map_eq_some_iff.mp serving
    rw [serving, show x.hangUp.phase? = some .ended by simp [Client.phase?, Client.hangUp, hk]]
    exact .ended own
  cases h with
  | offered => exact hsame (phaseOf_offer (r.withResponse _ _) _ _ c)
  | began found accepted =>
    refine hchange found ?_
    rw [accepted, hphase accepted]
    exact .began
  | read | fetched | delivered =>
    refine hsame (phaseOf_withClient_of_same (r := r) (fun x => ?_) c)
    obtain ⟨peer, mailbox, _ | k⟩ := x <;> rfl
  | readFailed found serving | finished found serving | undelivered found serving
  | sessionStopped _ found serving | sessionInterrupted _ found serving =>
    exact hhungUp found serving rfl
  | accepted _ found waiting =>
    refine hchange found ?_
    rw [waiting, hphase waiting]
    exact .accepted
  | acceptorStopped =>
    unfold phaseOf client?
    rw [List.getElem?_map]
    cases r.clients[c]? with
    | none => exact .same
    | some x =>
      obtain ⟨peer, mailbox, _ | k⟩ := x
      · exact .same
      · by_cases h : k.phase = .waiting
        · simp only [Client.phase?, Client.hangUp, Option.map_some, Option.bind_some, h, if_true]
          exact .turnedAway
        · simp only [Client.phase?, Option.map_some, Option.bind_some, Option.some.injEq, h,
            if_false]
          exact .same
  | _ => exact .same

theorem phaseStep (r : Relay) (m : Move) (c : Nat) :
    PhaseStep r c m (r.phaseOf c) ((r.move m).1.phaseOf c) := by
  cases m with
  | input i => exact (reached_apply r i).phaseStep c
  | turn t =>
    rcases r.turned_or_idle t with h | h
    · exact h.phaseStep c
    · rw [h]
      exact .same

/-- A session that has ended has ended for good. -/
theorem phaseOf_ended_move (m : Move) (h : r.phaseOf c = some .ended) :
    (r.move m).1.phaseOf c = some .ended := by
  have hstep := phaseStep r m c
  rw [h] at hstep
  generalize (r.move m).1.phaseOf c = after at hstep ⊢
  cases hstep
  rfl

/-- A session that has begun has begun for good. -/
theorem begun_move (m : Move) (h : r.phaseOf c = some .serving ∨ r.phaseOf c = some .ended) :
    (r.move m).1.phaseOf c = some .serving ∨ (r.move m).1.phaseOf c = some .ended := by
  rcases h with h | h
  · have hstep := phaseStep r m c
    rw [h] at hstep
    generalize (r.move m).1.phaseOf c = after at hstep ⊢
    cases hstep
    · exact .inl rfl
    · exact .inr rfl
  · exact .inr (phaseOf_ended_move m h)

/-! ## The sessions of a run -/

/-- The sessions that serve before a move, and those that begin with it, serve after it or have
ended with it. -/
theorem sessions_balance_move (r : Relay) (m : Move) : (r.begins m ++ r.serving).Perm
    ((r.move m).1.serving ++ (r.ends m).map (·.1)) := by
  have hends : (r.ends m).map (·.1) = r.serving.filter (· ∉ (r.move m).1.serving) := by
    simp [ends, Function.comp_def]
  have hnodup {xs ys : List Nat} (hxs : xs.Nodup) (hys : ys.Nodup) :
      (xs ++ ys.filter (· ∉ xs)).Nodup := by
    refine List.nodup_append.mpr ⟨hxs, hys.filter _, fun c hx d hy hcd => ?_⟩
    simp only [List.mem_filter, decide_eq_true_eq] at hy
    exact hy.2 (hcd ▸ hx)
  refine List.perm_append_comm.trans ?_
  rw [hends, begins]
  refine (List.perm_ext_iff_of_nodup (hnodup r.nodup_serving (nodup_serving _))
    (hnodup (nodup_serving _) r.nodup_serving)).mpr fun c => ?_
  simp only [List.mem_append, List.mem_filter, decide_eq_true_eq]
  tauto

/-- The sessions that have begun in a run serve at its end or have ended. -/
theorem sessions_balance (hr : r.clients = []) (ms : List Move) : (r.yields begins ms).Perm
    ((r.final ms).serving ++ (r.yields ends ms).map (·.1)) := by
  have hnone : r.serving = [] := by simp [serving, hr]
  have hrun : (r.yields begins ms ++ r.serving).Perm
      ((r.final ms).serving ++ r.yields (fun s m => (s.ends m).map (·.1)) ms) :=
    balance_of_moves serving begins _ fun ps m _ => sessions_balance_move (r.final ps) m
  rw [yields_map, hnone, List.append_nil] at hrun
  exact hrun

/-- No session begins twice. -/
theorem nodup_begins (r : Relay) (ms : List Move) : (r.yields begins ms).Nodup ∧
    ∀ c ∈ r.yields begins ms,
      (r.final ms).phaseOf c = some .serving ∨ (r.final ms).phaseOf c = some .ended := by
  induction ms using List.reverseRecOn with
  | nil => simp
  | append_singleton ms m ih =>
    obtain ⟨hnodup, hbegun⟩ := ih
    rw [yields_snoc, final_append, final_cons, final_nil]
    refine ⟨List.nodup_append.mpr ⟨hnodup, (nodup_serving _).filter _, ?_⟩, ?_⟩
    · rintro c hc d hbegins rfl
      simp only [begins, List.mem_filter, mem_serving, decide_eq_true_eq] at hbegins
      rcases hbegun c hc with h | h
      · exact hbegins.2 h
      · rw [phaseOf_ended_move m h] at hbegins
        simp at hbegins
    · intro c hc
      rcases List.mem_append.mp hc with hc | hc
      · exact begun_move m (hbegun c hc)
      · simp only [begins, List.mem_filter, mem_serving] at hc
        exact .inl hc.1

/-! ## What a move tells of sessions -/

/-- All that an input may tell of is a request that comes on the queue. -/
theorem events_apply (r : Relay) (i : Input) :
    (r.apply i).2 = [] ∨ ∃ p q, (r.apply i).2 = [.enqueued p q] := by
  cases i with
  | push =>
    simp only [apply, push]
    split
    · exact .inl rfl
    · exact .inr ⟨_, _, rfl⟩
  | dial =>
    simp only [apply]
    split <;> exact .inl rfl
  | _ => exact .inl rfl

theorem between_apply (r : Relay) (i : Input) : ∀ e ∈ (r.apply i).2, e.isBetween := by
  rcases r.events_apply i with h | ⟨p, q, h⟩ <;> rw [h] <;> simp [RelayEvent.isBetween]

theorem between_offer (r : Relay) (who : Requester) (f : Frame) :
    ∀ e ∈ (r.offer who f).2, e.isBetween := by
  unfold offer
  split
  · simp [RelayEvent.isBetween]
  · dsimp only
    split <;> simp [RelayEvent.isBetween]

/-- What the events of a move tell of sessions is what begins and ends with it. -/
def Told (r : Relay) (m : Move) (es : Trace) : Prop :=
  es.filterMap RelayEvent.connected? = r.begins m ∧
  es.filterMap RelayEvent.disconnected? = (r.ends m).map (·.1) ∧
  es.filterMap RelayEvent.sessionFailed? = (r.ends m).filterMap SessionEnd.failed?

variable {m : Move} {es : Trace}

theorem told_of_kept (hmove : r.move m = (r', es))
    (hkept : ∀ c, r'.phaseOf c = some .serving ↔ r.phaseOf c = some .serving)
    (hbetween : ∀ e ∈ es, e.isBetween) : Told r m es := by
  have hbegins : r.begins m = [] := by
    simp [begins, hmove, mem_serving, hkept]
  have hends : r.ends m = [] := by
    simp [ends, hmove, mem_serving, hkept]
  have hsilent {kind : RelayEvent → Option Nat} (h : ∀ e, e.isBetween → kind e = none) :
      es.filterMap kind = [] := List.filterMap_eq_nil_iff.mpr fun e he => h e (hbetween e he)
  unfold Told
  rw [hbegins, hends]
  refine ⟨hsilent fun e he => ?_, hsilent fun e he => ?_, hsilent fun e he => ?_⟩ <;>
    cases e <;> first | rfl | cases he

/-- All but one are in the other list. -/
theorem filter_not_mem_eq_singleton {xs ys : List Nat} (hxs : xs.Nodup)
    (h : ∀ d, d ∈ xs ∧ d ∉ ys ↔ d = c) : xs.filter (· ∉ ys) = [c] := by
  refine List.perm_singleton.mp ((List.perm_ext_iff_of_nodup (hxs.filter _)
    (List.pairwise_singleton _ c)).mpr fun d => ?_)
  simpa only [List.mem_filter, decide_eq_true_eq, List.mem_singleton] using h d

/-- A session begins with the move, and no other begins or ends. -/
theorem begins_of_phaseOf (hc : r.phaseOf c ≠ some .serving) (hmove : (r.move m).1 = r')
    (hphase : ∀ d, r'.phaseOf d = if c = d then some .serving else r.phaseOf d) :
    r.begins m = [c] ∧ r.ends m = [] := by
  have hmem (d : Nat) : d ∈ r'.serving ↔ c = d ∨ d ∈ r.serving := by
    rw [mem_serving, mem_serving, hphase]
    split <;> simp_all
  unfold begins ends
  rw [hmove]
  refine ⟨filter_not_mem_eq_singleton (nodup_serving _) fun d => ?_, ?_⟩
  · have hc := mt mem_serving.mp hc
    grind
  · rw [List.map_eq_nil_iff, List.filter_eq_nil_iff]
    intro d hd
    simp [hmem, hd]

/-- A session ends with the move, and no other begins or ends. -/
theorem ends_of_phaseOf (hc : r.phaseOf c = some .serving) (hmove : (r.move m).1 = r')
    (hphase : ∀ d, r'.phaseOf d = if c = d then some .ended else r.phaseOf d) :
    r.begins m = [] ∧ r.ends m = [(c, r.endOf c m)] := by
  have hmem (d : Nat) : d ∈ r'.serving ↔ c ≠ d ∧ d ∈ r.serving := by
    rw [mem_serving, mem_serving, hphase]
    split <;> simp_all
  unfold begins ends
  rw [hmove]
  constructor
  · rw [List.filter_eq_nil_iff]
    intro d hd
    simp [((hmem d).mp hd).2]
  · refine congrArg (List.map fun d => (d, r.endOf d m))
      (filter_not_mem_eq_singleton r.nodup_serving fun d => ?_)
    have hc := mem_serving.mpr hc
    grind

theorem told_of_began {x : Client} {p : Priority}
    (hmove : r.move m = (r.withClient c (·.withConnection ({ · with phase := .serving })),
      [.connected ⟨c, x.peer⟩ p]))
    (found : r.client? c = some x) (accepted : x.phase? = some .accepted) :
    Told r m [.connected ⟨c, x.peer⟩ p] := by
  obtain ⟨k, hk, -⟩ := Option.map_eq_some_iff.mp accepted
  obtain ⟨hbegins, hends⟩ := begins_of_phaseOf (c := c) (m := m)
    (by rw [phaseOf_of_client? found, accepted]; simp) (congrArg Prod.fst hmove) fun d => by
      rw [phaseOf_withClient]
      split
      · next hcd => simp [← hcd, found, Client.phase?, Client.withConnection, hk]
      · rfl
  unfold Told
  rw [hbegins, hends]
  exact ⟨rfl, rfl, rfl⟩

/-- A session that hangs up tells that it does, after the failure if there is one. -/
theorem told_of_ended {x : Client} (hmove : r.move m = (r.withClient c (·.hangUp), es))
    (found : r.client? c = some x) (serving : x.phase? = some .serving)
    (htold : es.filterMap RelayEvent.connected? = [] ∧
      es.filterMap RelayEvent.disconnected? = [c] ∧
      es.filterMap RelayEvent.sessionFailed? = if (r.endOf c m).failed then [c] else []) :
    Told r m es := by
  obtain ⟨k, hk, -⟩ := Option.map_eq_some_iff.mp serving
  obtain ⟨hbegins, hends⟩ := ends_of_phaseOf (c := c) (m := m)
    (by rw [phaseOf_of_client? found, serving]) (congrArg Prod.fst hmove) fun d => by
      rw [phaseOf_withClient]
      split
      · next hcd => simp [← hcd, found, Client.phase?, Client.hangUp, hk]
      · rfl
  obtain ⟨hconnected, hdisconnected, hfailed⟩ := htold
  unfold Told
  rw [hbegins, hends, hconnected, hdisconnected, hfailed, List.filterMap_cons, SessionEnd.failed?]
  refine ⟨rfl, rfl, ?_⟩
  cases (r.endOf c m).failed <;> rfl

theorem Turned.told {t : Turn} (h : Turned r t r' es) (hmove : r.move (.turn t) = (r', es)) :
    Told r (.turn t) es := by
  have hreader {c : Nat} {x : Client} {k : Connection} (found : r.client? c = some x)
      (connection : x.connection = some k) :
      (r.client? c).bind Client.reader? = some k.input := by
    rw [found]
    simp [Client.reader?, connection]
  have hstep := h.phaseStep
  cases h with
  | began found accepted => exact told_of_began hmove found accepted
  | readFailed found serving connection _ next =>
    refine told_of_ended hmove found serving ⟨rfl, rfl, ?_⟩
    simp only [endOf, hreader found connection, next]
    rfl
  | finished found serving connection _ next =>
    refine told_of_ended hmove found serving ⟨rfl, rfl, ?_⟩
    simp only [endOf, hreader found connection, next]
    rfl
  | undelivered found serving | sessionStopped _ found serving
  | sessionInterrupted _ found serving =>
    exact told_of_ended hmove found serving ⟨rfl, rfl, rfl⟩
  | read | fetched | delivered =>
    refine told_of_kept hmove (fun d => ?_) (by simp [RelayEvent.isBetween])
    refine Eq.congr_left (phaseOf_withClient_of_same (r := r) (fun x => ?_) d)
    obtain ⟨peer, mailbox, _ | k⟩ := x <;> rfl
  | accepted | acceptorStopped =>
    exact told_of_kept hmove (fun d => (hstep d).serving_iff rfl) (by simp)
  | offered =>
    refine told_of_kept hmove
      (fun d => Eq.congr_left (phaseOf_offer (r.withResponse _ _) _ _ d)) fun e he => ?_
    rcases List.mem_cons.mp he with rfl | he
    · rfl
    · exact between_offer _ _ _ e he
  | lost _ told =>
    refine told_of_kept hmove (fun d => Iff.rfl) fun e he => ?_
    have := r.isLoss_loseDevice told e he
    cases e <;> first | rfl | cases this
  | _ => exact told_of_kept hmove (fun d => Iff.rfl) (by simp [RelayEvent.isBetween])

/-- Every move tells of the sessions that begin and end with it. -/
theorem told_of_move (r : Relay) (m : Move) : Told r m (r.move m).2 := by
  cases m with
  | input i =>
    exact told_of_kept rfl (fun d => ((reached_apply r i).phaseStep d).serving_iff rfl)
      (between_apply r i)
  | turn t =>
    rcases r.turned_or_idle t with h | h
    · exact h.told rfl
    · rw [h]
      exact told_of_kept h (fun d => Iff.rfl) (by simp)

/-! ## What a run tells of sessions -/

theorem yields_begins (r : Relay) (ms : List Move) :
    r.yields begins ms = (r.trace ms).filterMap RelayEvent.connected? :=
  yields_eq_filterMap _ _ fun ps m _ => (told_of_move (r.final ps) m).1.symm

theorem yields_ends (r : Relay) (ms : List Move) :
    (r.yields ends ms).map (·.1) = (r.trace ms).filterMap RelayEvent.disconnected? := by
  rw [← yields_map]
  exact yields_eq_filterMap _ _ fun ps m _ => (told_of_move (r.final ps) m).2.1.symm

theorem yields_failed (r : Relay) (ms : List Move) :
    (r.yields ends ms).filterMap SessionEnd.failed? =
      (r.trace ms).filterMap RelayEvent.sessionFailed? := by
  rw [← yields_filterMap]
  exact yields_eq_filterMap _ _ fun ps m _ => (told_of_move (r.final ps) m).2.2.symm

end Relay

end ModbusRelay
