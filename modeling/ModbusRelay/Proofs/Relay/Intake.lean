import ModbusRelay.Proofs.Frame.Chunks
import ModbusRelay.Proofs.Relay.Answer
import ModbusRelay.Proofs.Relay.Ended
import ModbusRelay.Proofs.Relay.Unsent

/-!
What a session takes from its client.

The session reads the stream of its client one frame at a time and queues each, until it finds what
is no frame or the end of the stream. In between it writes responses, other sessions read and
write, and the client sends in pieces of any size. `InSession` says that the session has not ended,
and what has come from its client that it has not read; `intakeStep` lists what a move can do to
that, and `exists_intake` follows it through a run. What the run keeps is `stream`: what has come
and is not read, together with what will still come until the end.
-/

namespace ModbusRelay

/-! ## The stream of a client -/

/-- The end of what comes from client `c`, if the move is one. -/
def Move.sendingEnd? (c : Nat) : Move → Option ReadEnd
  | .input (.clientEnds d how) => if d = c then some how else none
  | .input (.clientCloses d) => if d = c then some .closed else none
  | _ => none

/-- All that client `c` sends before that comes to its end. -/
def sentUntilEnd (c : Nat) (ms : List Move) : List UInt8 :=
  sentBy c (ms.takeWhile (·.sendingEnd? c = none))

/-- How what comes from client `c` has come to its end, if it has. -/
def endingOf (c : Nat) (ms : List Move) : Option ReadEnd := ms.findSome? (·.sendingEnd? c)

/-- What a session can still read: what has come already, and what comes until the end. -/
def stream (u : FrameReader) (c : Nat) (ms : List Move) : FrameReader :=
  ⟨u.buffer ++ (if u.ended then [] else sentUntilEnd c ms), u.ending.or (endingOf c ms)⟩

/-- What comes from client `c` with a move. -/
def Move.arrive (c : Nat) (m : Move) (u : FrameReader) : FrameReader :=
  match m.sendingEnd? c with
  | some how => u.finish how
  | none => u.feed (m.sends c)

/-- How a session ends by what is left of a stream and by how that has ended, if it has. -/
inductive StreamEnd (left : List UInt8) (ending : Option ReadEnd) : SessionEnd → Prop where
  | finished (isOver : ending = some .closed) (nothing : left = []) :
      StreamEnd left ending .finished
  | torn (isOver : ending = some .closed) (something : left ≠ []) (incomplete : Incomplete left) :
      StreamEnd left ending (.readFailed (.io .bytesRemaining))
  | broken {cause : IoError} (isOver : ending = some (.broken cause))
      (incomplete : Incomplete left) : StreamEnd left ending (.readFailed (.io cause))
  | malformed {n : UInt16} (bad : Malformed left n) :
      StreamEnd left ending (.readFailed (.framing (.invalidLength n)))

section Stream

variable {u : FrameReader} {c : Nat} {m : Move} {ms : List Move}

@[simp]
theorem stream_nil (u : FrameReader) (c : Nat) : stream u c [] = u := by
  obtain ⟨buffer, ending⟩ := u
  simp [stream, sentUntilEnd, sentBy, endingOf]

theorem stream_new (c : Nat) (ms : List Move) :
    stream {} c ms = ⟨sentUntilEnd c ms, endingOf c ms⟩ := rfl

/-- It is the same whether it has come already. -/
theorem stream_arrive : stream (m.arrive c u) c ms = stream u c (m :: ms) := by
  obtain ⟨buffer, ending⟩ := u
  cases hm : m.sendingEnd? c <;> cases ending <;>
    simp [stream, Move.arrive, hm, sentUntilEnd, sentBy, endingOf, FrameReader.feed,
      FrameReader.finish, FrameReader.ended]

theorem stream_of_frame {f : Frame} {u' : FrameReader} (front : u.buffer = f.encode ++ u'.buffer)
    (same : u'.ending = u.ending) (c : Nat) (ms : List Move) :
    (stream u c ms).buffer = f.encode ++ (stream u' c ms).buffer ∧
      (stream u c ms).ending = (stream u' c ms).ending := by
  have ended : u'.ended = u.ended := congrArg Option.isSome same
  simp only [stream, front, same, ended, List.append_assoc, and_self]

/-- A move by which nothing comes from the client. -/
theorem arrive_of_sends (hends : m.sendingEnd? c = none) (hsends : m.sends c = []) :
    m.arrive c u = u := by
  unfold Move.arrive FrameReader.feed
  rw [hends, hsends]
  obtain ⟨buffer, _ | _⟩ := u <;> simp [FrameReader.ended]

theorem arrive_of_not_touches (h : m.touches c = false) : m.arrive c u = u := by
  cases m with
  | turn t => exact arrive_of_sends rfl rfl
  | input i =>
    cases i with
    | clientSends d _ | clientEnds d _ | clientCloses d =>
      have hne : d ≠ c := by simpa [Move.touches] using h
      exact arrive_of_sends (by simp [Move.sendingEnd?, hne]) (by simp [Move.sends, hne])
    | _ => exact arrive_of_sends rfl rfl

theorem arrive_turn (t : Turn) : (Move.turn t).arrive c u = u := arrive_of_sends rfl rfl

@[simp]
theorem arrive_clientSends (bytes : List UInt8) :
    (Move.input (.clientSends c bytes)).arrive c u = u.feed bytes := by
  simp [Move.arrive, Move.sendingEnd?, Move.sends]

@[simp]
theorem arrive_clientEnds (how : ReadEnd) :
    (Move.input (.clientEnds c how)).arrive c u = u.finish how := by
  simp [Move.arrive, Move.sendingEnd?]

@[simp]
theorem arrive_clientCloses : (Move.input (.clientCloses c)).arrive c u = u.finish .closed := by
  simp [Move.arrive, Move.sendingEnd?]

/-- What cannot be read stays so, whatever comes behind it. -/
theorem StreamEnd.stream {how : SessionEnd} (h : StreamEnd u.buffer u.ending how) (c : Nat)
    (ms : List Move) : StreamEnd (stream u c ms).buffer (stream u c ms).ending how := by
  unfold ModbusRelay.stream FrameReader.ended
  cases h with
  | finished isOver nothing => exact .finished (by simp [isOver]) (by simp [isOver, nothing])
  | torn isOver something incomplete =>
    exact .torn (by simp [isOver]) (by simp [something]) (by simpa [isOver] using incomplete)
  | broken isOver incomplete =>
    exact .broken (by simp [isOver]) (by simpa [isOver] using incomplete)
  | malformed bad => exact .malformed (bad.append _)

/-- There is no frame in what cannot be read. -/
theorem StreamEnd.takeFrames {left : List UInt8} {ending : Option ReadEnd} {how : SessionEnd}
    (h : StreamEnd left ending how) :
    ∃ stopped, ModbusRelay.takeFrames left = ([], stopped, left) := by
  cases h with
  | finished _ nothing =>
    subst nothing
    exact ⟨none, takeFrames_nil⟩
  | torn _ _ incomplete | broken _ incomplete =>
    exact ⟨none, takeFrames_of_incomplete incomplete⟩
  | malformed bad => exact ⟨_, takeFrames_of_malformed bad⟩

/-- A session fails when something is left that cannot be read, or reading has failed. -/
theorem StreamEnd.failed_iff {left : List UInt8} {ending : Option ReadEnd} {how : SessionEnd}
    (h : StreamEnd left ending how) :
    how.failed = true ↔ left ≠ [] ∨ ∃ cause, ending = some (.broken cause) := by
  cases h with
  | finished isOver nothing => simp [SessionEnd.failed, isOver, nothing]
  | torn _ something => simp [SessionEnd.failed, something]
  | broken isOver => exact iff_of_true rfl (.inr ⟨_, isOver⟩)
  | malformed bad =>
    refine iff_of_true rfl (.inl ?_)
    rintro rfl
    cases bad.1

end Stream

namespace Relay

variable {r : Relay} {c : Nat} {peer : SocketAddress} {u : FrameReader} {m : Move}

/-! ## One move -/

/-- What the session of client `c` puts on the queue in a move. -/
def queuedBy (c : Nat) (r : Relay) (m : Move) : List (Priority × Request) :=
  if m = .turn (.intake c) then Trace.queued (r.move m).2 else []

/-- How the session of client `c` ends in a move, if it does. -/
def endsOf (c : Nat) (r : Relay) (m : Move) : List SessionEnd :=
  (r.ends m).filterMap fun x => if x.1 = c then some x.2 else none

/-- The request that a frame of client `c` is, in the class of its address. -/
def asking (c : Nat) (peer : SocketAddress) (f : Frame) : Priority × Request :=
  (.ofPeer peer, ⟨⟨c, peer⟩, f⟩)

/-- The session of client `c` has not ended, if it has begun, and `unread` is what has come from its
client that it has not read. -/
structure InSession (r : Relay) (c : Nat) (peer : SocketAddress) (unread : FrameReader) : Prop where
  client : ∃ x, r.client? c = some x ∧ x.peer = peer ∧ x.reader? = some unread
  running : r.phaseOf c ≠ some .ended

/-- What is picked of the sessions in a list for one session. -/
theorem filterMap_eq_singleton {α : Type} {xs : List Nat} (hxs : xs.Nodup) (c : Nat)
    (f : Nat → α) : (xs.filterMap fun d => if d = c then some (f d) else none) =
      if c ∈ xs then [f c] else [] := by
  induction xs with
  | nil => rfl
  | cons d xs ih =>
    obtain ⟨hd, hxs⟩ := List.nodup_cons.mp hxs
    rw [List.filterMap_cons, ih hxs]
    by_cases h : d = c
    · subst h
      simp [hd]
    · simp [h, Ne.symm h]

/-- A session ends when it does not serve any more. -/
theorem endsOf_eq (c : Nat) (r : Relay) (m : Move) : r.endsOf c m =
    if r.phaseOf c = some .serving ∧ (r.move m).1.phaseOf c ≠ some .serving then [r.endOf c m]
    else [] := by
  have hmem : c ∈ r.serving.filter (· ∉ (r.move m).1.serving) ↔
      r.phaseOf c = some .serving ∧ (r.move m).1.phaseOf c ≠ some .serving := by
    rw [List.mem_filter, mem_serving, decide_eq_true_iff, mem_serving]
  unfold endsOf ends
  rw [List.filterMap_map]
  refine (filterMap_eq_singleton (r.nodup_serving.filter _) c fun d => r.endOf d m).trans ?_
  simp only [hmem]

/-- Only its own turns end a session. -/
theorem own_of_ends (h : c ∈ (r.ends m).map (·.1)) :
    m = .turn (.intake c) ∨ m = .turn (.deliver c) ∨ m = .turn (.stopSession c) := by
  rw [← (told_of_move r m).2.1, List.mem_filterMap] at h
  obtain ⟨e, he, hc⟩ := h
  obtain ⟨who, rfl, rfl⟩ : ∃ who, e = .disconnected who ∧ who.client = c := by
    cases e <;> first | exact ⟨_, rfl, Option.some.inj hc⟩ | cases hc
  cases m with
  | input i => cases between_apply r i _ he
  | turn t =>
    rcases r.turned_or_idle t with hturned | hidle
    · generalize (r.move (.turn t)).1 = r' at hturned
      generalize (r.move (.turn t)).2 = es at he hturned
      cases hturned with
      | readFailed | finished | undelivered | sessionStopped | sessionInterrupted =>
        obtain rfl := by simpa using he
        simp
      | offered =>
        rcases List.mem_cons.mp he with he | he
        · cases he
        · cases between_offer _ _ _ _ he
      | lost _ told => cases r.isLoss_loseDevice told _ he
      | _ => simp at he
    · rw [hidle] at he
      cases he

/-- The session goes on as long as its connection does not end. -/
theorem endsOf_of_running (h : (r.move m).1.phaseOf c ≠ some .ended) : r.endsOf c m = [] := by
  rw [endsOf_eq]
  refine if_neg fun ⟨hbefore, hafter⟩ => ?_
  have hstep := phaseStep r m c
  rw [hbefore] at hstep
  generalize (r.move m).1.phaseOf c = after at h hafter hstep
  cases hstep with
  | same => exact hafter rfl
  | ended => exact h rfl

theorem endsOf_of_ended (h : r.phaseOf c = some .serving)
    (hended : (r.move m).1.phaseOf c = some .ended) : r.endsOf c m = [r.endOf c m] := by
  rw [endsOf_eq]
  exact if_pos ⟨h, by simp [hended]⟩

/-- Before the relay is cancelled only a read or a write ends a connection. -/
theorem ended_of_move (hcancelled : r.cancelled = false) (h : r.phaseOf c ≠ some .ended)
    (hended : (r.move m).1.phaseOf c = some .ended) :
    r.phaseOf c = some .serving ∧ (m = .turn (.intake c) ∨ m = .turn (.deliver c)) := by
  have hstops : ¬m.stops = true := fun hstops => by
    rw [move_of_stops hcancelled hstops] at hended
    exact h hended
  have hstep := phaseStep r m c
  rw [hended] at hstep
  generalize hbefore : r.phaseOf c = before at h hstep
  cases hstep with
  | same => exact absurd rfl h
  | turnedAway => exact absurd rfl hstops
  | ended =>
    have hmem : c ∈ (r.ends m).map (·.1) := by
      simp [ends, mem_serving, hbefore, hended]
    rcases own_of_ends hmem with rfl | rfl | rfl
    · exact ⟨rfl, .inl rfl⟩
    · exact ⟨rfl, .inr rfl⟩
    · exact absurd rfl hstops

theorem InSession.of_client {x : Client} (hx : r.client? c = some x) (hpeer : x.peer = peer)
    (hreader : x.reader? = some u) (hphase : x.phase? ≠ some .ended) : r.InSession c peer u :=
  ⟨⟨x, hx, hpeer, hreader⟩, by rwa [phaseOf_of_client? hx]⟩

/-- A move that does not touch the bytes between the client and its session. -/
theorem InSession.aside (h : r.InSession c peer u) (hm : m.touches c = false)
    (hrunning : (r.move m).1.phaseOf c ≠ some .ended) : (r.move m).1.InSession c peer u := by
  obtain ⟨x, hx, rfl, hreader⟩ := h.client
  have hstep := clientStep r m c
  rw [hx] at hstep
  generalize hx' : (r.move m).1.client? c = after at hstep
  cases hstep with
  | @stayed _ x' step => exact ⟨⟨x', hx', step.peer, (step.reader hm).trans hreader⟩, hrunning⟩

theorem client?_clientCloses {x : Client} (hx : r.client? c = some x) (hreader : x.reader? = some u)
    (hphase : x.phase? ≠ some .ended) : (r.move (.input (.clientCloses c))).1.client? c =
      some ((x.withReader (·.finish .closed)).withConnection ({ · with writable := false })) := by
  refine (client?_withClient r c c _).trans ?_
  rw [if_pos rfl, hx]
  obtain ⟨peer, mailbox, _ | k⟩ := x
  · cases hreader
  · have hne : ¬k.phase = .ended := fun h => hphase (congrArg some h)
    simp [Client.withReader, Client.withConnection, hne]

/-- Something comes from the client, or its end. -/
theorem InSession.arrive (h : r.InSession c peer u) (hm : m.touches c = true)
    (hintake : m ≠ .turn (.intake c)) : (r.move m).1.InSession c peer (m.arrive c u) := by
  obtain ⟨x, hx, rfl, hreader⟩ := h.client
  have hphase : x.phase? ≠ some .ended := by
    rw [← phaseOf_of_client? hx]
    exact h.running
  have hinput (change : FrameReader → FrameReader) :
      (r.withInput c change).InSession c x.peer (change u) :=
    .of_client (client?_withInput hx hphase change) rfl
      (by rw [Client.reader?_withReader, hreader]; rfl) (by rwa [Client.phase?_withReader])
  cases m with
  | turn t =>
    cases t with
    | intake d =>
      obtain rfl : d = c := by simpa [Move.touches] using hm
      exact absurd rfl hintake
    | _ => cases hm
  | input i =>
    cases i with
    | clientSends d bytes =>
      obtain rfl : d = c := by simpa [Move.touches] using hm
      rw [arrive_clientSends]
      exact hinput (·.feed bytes)
    | clientEnds d how =>
      obtain rfl : d = c := by simpa [Move.touches] using hm
      rw [arrive_clientEnds]
      exact hinput (·.finish how)
    | clientCloses d =>
      obtain rfl : d = c := by simpa [Move.touches] using hm
      rw [arrive_clientCloses]
      refine .of_client (client?_clientCloses hx hreader hphase) rfl ?_ ?_
      · obtain ⟨peer, mailbox, _ | k⟩ := x
        · cases hreader
        · cases hreader
          rfl
      · obtain ⟨peer, mailbox, _ | k⟩ := x
        · cases hreader
        · exact hphase
    | _ => cases hm

/-- What a move can do to a session and to what has come from its client. -/
inductive IntakeStep (r : Relay) (c : Nat) (peer : SocketAddress) (u : FrameReader) (m : Move) :
    Prop where
  | arrives (next : (r.move m).1.InSession c peer (m.arrive c u)) (queued : r.queuedBy c m = [])
  | reads {f : Frame} {u' : FrameReader} (own : m = .turn (.intake c))
      (front : u.buffer = f.encode ++ u'.buffer) (same : u'.ending = u.ending)
      (next : (r.move m).1.InSession c peer u') (queued : r.queuedBy c m = [asking c peer f])
  | ends {how : SessionEnd} (own : m = .turn (.intake c)) (stream : StreamEnd u.buffer u.ending how)
      (closed : (r.move m).1.phaseOf c = some .ended) (queued : r.queuedBy c m = [])
      (told : r.endsOf c m = [how])

/-- The session takes its turn to read. -/
theorem intakeStep_intake (h : r.InSession c peer u) :
    r.IntakeStep c peer u (.turn (.intake c)) := by
  obtain ⟨x, hx, rfl, hreader⟩ := h.client
  have harrive : (Move.turn (.intake c)).arrive c u = u := arrive_turn _
  have hqueued : r.queuedBy c (.turn (.intake c)) = Trace.queued (r.move (.turn (.intake c))).2 :=
    if_pos rfl
  have hsame (hmove : r.move (.turn (.intake c)) = (r, [])) :
      r.IntakeStep c x.peer u (.turn (.intake c)) := by
    refine .arrives ?_ (by rw [hqueued, hmove]; rfl)
    rw [harrive, hmove]
    exact h
  by_cases hfree : x.Free
  · have hphase : r.phaseOf c = some .serving := (phaseOf_of_client? hx).trans hfree.1
    rcases hnext : u.next with ⟨n, input⟩
    have hmove := intake_of_next hx hfree hreader hnext
    have hfinished (hn : n = .finished) : r.endOf c (.turn (.intake c)) = .finished := by
      simp only [endOf, hx, Option.bind_some, hreader, hnext, hn]
    have hfailed (e : RelayError) (hn : n = .item (.failed e)) :
        r.endOf c (.turn (.intake c)) = .readFailed e := by
      simp only [endOf, hx, Option.bind_some, hreader, hnext, hn]
    -- What is left to say of a session that has hung up is why.
    have hhungUp {es : Trace} (hnone : Trace.queued es = [])
        (hover : r.move (.turn (.intake c)) =
          (r.withClient c fun x => (x.withReader fun _ => input).hangUp, es))
        (hhow : StreamEnd u.buffer u.ending (r.endOf c (.turn (.intake c)))) :
        r.IntakeStep c x.peer u (.turn (.intake c)) := by
      have hended : (r.move (.turn (.intake c))).1.phaseOf c = some .ended := by
        rw [hover, phaseOf_withClient, if_pos rfl, hx]
        obtain ⟨peer, mailbox, _ | k⟩ := x
        · cases hreader
        · rfl
      exact .ends rfl hhow hended (by rw [hqueued, hover, hnone]) (endsOf_of_ended hphase hended)
    cases FrameReader.reading hnext with
    | @frame f u' front same =>
      refine .reads rfl front same ?_ (by rw [hqueued, hmove]; rfl)
      rw [hmove]
      exact .of_client (r.client?_withReader_self c _ hx) rfl
        (by rw [Client.reader?_withReader, hreader]; rfl)
        (by rw [Client.phase?_withReader, hfree.1]; simp)
    | waiting => exact hsame hmove
    | finished isOver nothing => exact hhungUp rfl hmove (hfinished rfl ▸ .finished isOver nothing)
    | torn isOver something incomplete =>
      exact hhungUp rfl hmove (hfailed _ rfl ▸ .torn isOver something incomplete)
    | broken isOver incomplete =>
      exact hhungUp rfl hmove (hfailed _ rfl ▸ .broken isOver incomplete)
    | malformed bad => exact hhungUp rfl hmove (hfailed _ rfl ▸ .malformed bad)
  · exact hsame (intake_of_not_free hx hfree)

/-- Every move is one of the cases, unless the relay has been cancelled or a response cannot be
written. -/
theorem intakeStep (h : r.InSession c peer u) (hcancelled : r.cancelled = false)
    (hwrites : .writeFailed ∉ r.endsOf c m) : r.IntakeStep c peer u m := by
  by_cases hintake : m = .turn (.intake c)
  · subst hintake
    exact intakeStep_intake h
  · have hqueued : r.queuedBy c m = [] := if_neg hintake
    by_cases htouches : m.touches c = true
    · exact .arrives (h.arrive htouches hintake) hqueued
    · rw [Bool.not_eq_true] at htouches
      refine .arrives ?_ hqueued
      rw [arrive_of_not_touches htouches]
      refine h.aside htouches fun hended => ?_
      obtain ⟨hserving, rfl | rfl⟩ := ended_of_move hcancelled h.running hended
      · exact hintake rfl
      · rw [endsOf_of_ended hserving hended] at hwrites
        exact hwrites (List.mem_singleton.mpr rfl)

/-! ## A run -/

/-- A session that has ended takes nothing more and does not end again. -/
theorem over_run (h : r.phaseOf c = some .ended) (ms : List Move) :
    r.yields (queuedBy c) ms = [] ∧ r.yields (endsOf c) ms = [] ∧
      (r.final ms).phaseOf c = some .ended := by
  induction ms generalizing r with
  | nil => exact ⟨rfl, rfl, h⟩
  | cons m ms ih =>
    obtain ⟨hqueued, hends, hover⟩ := ih (phaseOf_ended_move m h)
    have hends' : r.endsOf c m = [] := by
      rw [endsOf_eq]
      exact if_neg fun hserving => by
        rw [h] at hserving
        cases hserving.1
    have hqueued' : r.queuedBy c m = [] := by
      unfold queuedBy
      split
      · next hm =>
        subst hm
        obtain ⟨x, hx, hphase⟩ := Option.bind_eq_some_iff.mp h
        have hfree : ¬x.Free := fun hfree => by
          have hserving := hfree.1
          rw [hphase] at hserving
          cases hserving
        rw [intake_of_not_free hx hfree]
        rfl
      · rfl
    rw [yields, yields, hqueued, hqueued', hends, hends']
    exact ⟨rfl, rfl, hover⟩

/-- What a session has taken of the stream, and what is left: it still reads, or it has ended with
what it cannot read. -/
theorem exists_intake (h : r.InSession c peer u) (hcancelled : r.cancelled = false) {ms : List Move}
    (hms : .input .cancel ∉ ms) (hwrites : .writeFailed ∉ r.yields (endsOf c) ms) :
    ∃ (taken : List Frame) (left : List UInt8),
      (stream u c ms).buffer = taken.flatMap (·.encode) ++ left ∧
      r.yields (queuedBy c) ms = taken.map (asking c peer) ∧
      ((r.final ms).InSession c peer ⟨left, (stream u c ms).ending⟩ ∧
          r.yields (endsOf c) ms = [] ∨
        ∃ how, StreamEnd left (stream u c ms).ending how ∧
          (r.final ms).phaseOf c = some .ended ∧ r.yields (endsOf c) ms = [how]) := by
  induction ms generalizing r u with
  | nil => exact ⟨[], u.buffer, by simp, rfl, .inl ⟨by simpa using h, rfl⟩⟩
  | cons m ms ih =>
    rw [List.mem_cons, not_or] at hms
    rw [yields, List.mem_append, not_or] at hwrites
    have hcancelled' : (r.move m).1.cancelled = false :=
      (r.cancelled_move (Ne.symm hms.1)).trans hcancelled
    have hrunning {u' : FrameReader} (next : (r.move m).1.InSession c peer u') :
        r.endsOf c m = [] := endsOf_of_running next.running
    simp only [yields, final_cons]
    cases intakeStep h hcancelled hwrites.1 with
    | arrives next queued =>
      rw [queued, hrunning next, ← stream_arrive]
      exact ih next hcancelled' hms.2 hwrites.2
    | @reads f u' own front same next queued =>
      subst own
      obtain ⟨taken, left, hbytes, htaken, hend⟩ := ih next hcancelled' hms.2 hwrites.2
      have hstream : stream u c (.turn (.intake c) :: ms) = stream u c ms := by
        rw [← stream_arrive, arrive_turn]
      obtain ⟨hbuffer, hending⟩ := stream_of_frame front same c ms
      rw [hstream, hending]
      refine ⟨f :: taken, left, ?_, ?_, ?_⟩
      · rw [hbuffer, hbytes, List.flatMap_cons, List.append_assoc]
      · rw [queued, htaken]
        rfl
      · rw [hrunning next]
        exact hend
    | @ends how own stream closed queued told =>
      obtain ⟨hqueued, hends, hover⟩ := over_run closed ms
      rw [queued, hqueued, told, hends]
      exact ⟨[], _, rfl, rfl, .inr ⟨how, stream.stream c _, hover, rfl⟩⟩

/-! ## At rest -/

/-- As long as there is a listener, a connection does not wait for it in vain. -/
theorem not_quiet_of_waiting {x : Client} (hx : r.client? c = some x)
    (hwaiting : x.phase? = some .waiting) (hopen : r.acceptor.hasListener = true) : ¬r.Quiet := by
  intro hquiet
  have haccept := hquiet .accept
  have hresume := hquiet .resume
  have hnext : r.nextWaiting? ≠ none := by
    unfold nextWaiting?
    rw [Ne, List.findIdx?_eq_none_iff]
    intro hnone
    have := hnone x (List.mem_of_getElem? hx)
    simp [hwaiting] at this
  cases hacceptor : r.acceptor with
  | joining | closed =>
    rw [hacceptor] at hopen
    cases hopen
  | resting => simp [turn?, resume?, hacceptor] at hresume
  | listening =>
    simp only [turn?, accept?, hacceptor, if_true] at haccept
    split at haccept
    · next hnone => exact hnext hnone
    · split at haccept <;> cases haccept

/-- When no worker can take a turn, a session that has not ended serves its client, and has written
what it had in hand. -/
theorem free_of_quiet
    (hlistener : r.acceptor.hasListener = false → ∀ d, r.phaseOf d ≠ some .waiting)
    (hquiet : r.Quiet) {x : Client} {k : Connection} (hx : r.client? c = some x)
    (hk : x.connection = some k) (hrunning : k.phase ≠ .ended) : x.Free := by
  have hphase : x.phase? = some k.phase := by rw [Client.phase?, hk]; rfl
  cases hp : k.phase <;> rw [hp] at hphase
  case ended => exact absurd hp hrunning
  case waiting =>
    refine absurd hquiet (not_quiet_of_waiting hx hphase ?_)
    cases hclosed : r.acceptor.hasListener with
    | true => rfl
    | false => exact absurd ((phaseOf_of_client? hx).trans hphase) (hlistener hclosed c)
  case accepted =>
    have hbegin := hquiet (.begin c)
    simp [turn?, begin?, clientIn?, hx, hphase] at hbegin
  case serving =>
    refine ⟨hphase, (Client.inHand_of_connection hk).trans ?_⟩
    cases hhand : k.inHand with
    | none => rfl
    | some f =>
      -- Either it can write the response, or it hangs up because it cannot.
      have hdeliver := hquiet (.deliver c)
      simp only [turn?, deliver?, clientIn?, hx, hphase, if_true, hk, hhand, Option.bind_eq_bind,
        Option.bind_some] at hdeliver
      split at hdeliver <;> cases hdeliver

/-- When no worker can take a turn, a session that has not ended waits for more. -/
theorem waiting_of_quiet (h : r.InSession c peer u)
    (hlistener : r.acceptor.hasListener = false → ∀ d, r.phaseOf d ≠ some .waiting)
    (hquiet : r.Quiet) : u.ending = none ∧ Incomplete u.buffer := by
  obtain ⟨x, hx, rfl, hreader⟩ := h.client
  obtain ⟨k, hk, -⟩ := Option.map_eq_some_iff.mp hreader
  have hfree := free_of_quiet hlistener hquiet hx hk fun hended => by
    refine h.running ((phaseOf_of_client? hx).trans ?_)
    rw [Client.phase?, hk, Option.map_some, hended]
  rcases hnext : u.next with ⟨n, input⟩
  have hmove := intake_of_next hx hfree hreader hnext
  rw [move_of_turn?_none (hquiet (.intake c))] at hmove
  cases FrameReader.reading hnext with
  | waiting running torn => exact ⟨running, torn⟩
  | _ => cases congrArg Prod.snd hmove

/-! ## What becomes of the stream -/

/-- How many failures of the session of client `c` are told of. -/
def failuresOf (c : Nat) (es : Trace) : Nat :=
  (es.filterMap RelayEvent.sessionFailed?).count c

theorem count_failed (c : Nat) (xs : List (Nat × SessionEnd)) :
    (xs.filterMap SessionEnd.failed?).count c =
      (xs.filterMap fun x => if x.1 = c then some x.2 else none).countP (·.failed) := by
  induction xs with
  | nil => rfl
  | cons x xs ih =>
    obtain ⟨d, how⟩ := x
    by_cases hd : d = c <;> cases hfailed : how.failed <;>
      simp [SessionEnd.failed?, hd, hfailed, ih]

/-- A session has failed if it has ended so. -/
theorem failuresOf_trace (r : Relay) (c : Nat) (ms : List Move) :
    failuresOf c (r.trace ms) = (r.yields (endsOf c) ms).countP (·.failed) := by
  rw [failuresOf, ← yields_failed, count_failed]
  exact congrArg _ (yields_filterMap ends _ r ms).symm

/-- A client error is one of this session or of another. -/
theorem clientErrors_eq (c : Nat) (m : Metrics) (es : Trace) :
    (m.observeAll es).clientErrors = m.clientErrors + failuresOf c es
      + (es.filterMap RelayEvent.sessionFailed?).countP (· ≠ c) := by
  rw [Metrics.clientErrors_observeAll, failuresOf, List.length_eq_countP_add_countP (· == c),
    Nat.add_assoc]
  simp [List.count]

/-- Nothing is left just if the bytes are frames and nothing else. -/
theorem left_eq_nil_iff {bytes left : List UInt8} {frames : List Frame}
    (hbytes : bytes = frames.flatMap (·.encode) ++ left)
    (hlongest : ∀ gs : List Frame, gs.flatMap (·.encode) <+: bytes → gs <+: frames) :
    left = [] ↔ ∃ fs : List Frame, bytes = fs.flatMap (·.encode) := by
  constructor
  · rintro rfl
    exact ⟨frames, by rw [hbytes, List.append_nil]⟩
  · rintro ⟨fs, hfs⟩
    obtain ⟨more, rfl⟩ := hlongest fs (by rw [hfs])
    rw [hfs, List.flatMap_append, List.append_assoc] at hbytes
    exact (List.append_eq_nil_iff.mp (List.self_eq_append_right.mp hbytes)).2

/-- What the session of client `c` takes of what the client sends in a run: `frames` are the longest
beginning of it that is made of frames, and `left` is what comes behind them. -/
structure TakesFrom (r : Relay) (c : Nat) (peer : SocketAddress) (ms : List Move)
    (frames : List Frame) (left : List UInt8) : Prop where
  sent : sentUntilEnd c ms = frames.flatMap (·.encode) ++ left
  longest : ∀ gs : List Frame, gs.flatMap (·.encode) <+: sentUntilEnd c ms → gs <+: frames
  /-- The frames are queued in order, in the class of the address, and nothing else is. -/
  queued : r.yields (queuedBy c) ms <+: frames.map (asking c peer)
  /-- A session that has ended has queued them all, and what is left says how it has ended. It never
  queues anything again. -/
  ended : (r.final ms).phaseOf c = some .ended →
    r.yields (queuedBy c) ms = frames.map (asking c peer) ∧
    (∃ how, StreamEnd left (endingOf c ms) how ∧ r.yields (endsOf c) ms = [how]) ∧
    ∀ later, (r.final ms).yields (queuedBy c) later = []
  /-- It has added one error if the bytes are not frames and nothing else, or if the system failed
  to read them, and none otherwise. -/
  failed : (r.final ms).phaseOf c = some .ended →
    failuresOf c (r.trace ms) ≤ 1 ∧
    (failuresOf c (r.trace ms) = 1 ↔
      (¬∃ fs : List Frame, sentUntilEnd c ms = fs.flatMap (·.encode)) ∨
        ∃ cause, endingOf c ms = some (.broken cause)) ∧
    ∀ later, failuresOf c ((r.final ms).trace later) = 0
  /-- Among the client errors that are counted are its own. -/
  counted : ∀ m : Metrics, (m.observeAll (r.trace ms)).clientErrors = m.clientErrors
    + failuresOf c (r.trace ms) + ((r.trace ms).filterMap RelayEvent.sessionFailed?).countP (· ≠ c)
  goesOn : (r.final ms).phaseOf c ≠ some .ended →
    r.yields (endsOf c) ms = [] ∧ failuresOf c (r.trace ms) = 0
  /-- When no worker can take a turn, the session has queued them all, and it has ended if what is
  left begins with a bad header, or if what comes from the client has come to its end. -/
  atRest : (r.final ms).Quiet →
    r.yields (queuedBy c) ms = frames.map (asking c peer) ∧
    ((r.final ms).phaseOf c = some .ended ↔ (∃ n, Malformed left n) ∨ endingOf c ms ≠ none)

/-- The session has ended. -/
theorem takesFrom_of_ended {ms : List Move} {taken : List Frame} {left : List UInt8}
    {how : SessionEnd} (hsent : sentUntilEnd c ms = taken.flatMap (·.encode) ++ left)
    (htaken : r.yields (queuedBy c) ms = taken.map (asking c peer))
    (hhow : StreamEnd left (endingOf c ms) how) (hover : (r.final ms).phaseOf c = some .ended)
    (hends : r.yields (endsOf c) ms = [how]) : r.TakesFrom c peer ms taken left := by
  obtain ⟨stopped, htake⟩ := hhow.takeFrames
  have hlongest (gs : List Frame) (hgs : gs.flatMap (·.encode) <+: sentUntilEnd c ms) :
      gs <+: taken := by
    have hprefix := prefix_takeFrames hgs
    rwa [hsent, takeFrames_flatMap_encode, htake, List.append_nil] at hprefix
  have hlater := over_run hover
  have hfailures : failuresOf c (r.trace ms) = if how.failed then 1 else 0 := by
    rw [failuresOf_trace, hends, List.countP_singleton]
  exact
    { sent := hsent
      longest := hlongest
      queued := by rw [htaken]
      ended := fun _ => ⟨htaken, ⟨how, hhow, hends⟩, fun later => (hlater later).1⟩
      failed := fun _ => by
        refine ⟨?_, ?_, fun later => ?_⟩
        · rw [hfailures]
          split <;> simp
        · rw [← left_eq_nil_iff hsent hlongest, ← Ne, ← hhow.failed_iff, hfailures]
          simp
        · rw [failuresOf_trace, (hlater later).2.1]
          rfl
      counted := fun m => clientErrors_eq c m _
      goesOn := fun hrunning => absurd hover hrunning
      atRest := fun _ => by
        refine ⟨htaken, iff_of_true hover ?_⟩
        cases hhow with
        | finished isOver | torn isOver | broken isOver => exact .inr (by rw [isOver]; simp)
        | malformed bad => exact .inl ⟨_, bad⟩ }

/-- The session still reads. -/
theorem takesFrom_of_running {ms : List Move} {taken more : List Frame} {left rest : List UInt8}
    {stopped : Option FrameError}
    (hsent : sentUntilEnd c ms = taken.flatMap (·.encode) ++ left)
    (htake : takeFrames left = (more, stopped, rest))
    (htaken : r.yields (queuedBy c) ms = taken.map (asking c peer))
    (hsession : (r.final ms).InSession c peer ⟨left, endingOf c ms⟩)
    (hends : r.yields (endsOf c) ms = [])
    (hlistener : (r.final ms).acceptor.hasListener = false →
      ∀ d, (r.final ms).phaseOf d ≠ some .waiting) :
    r.TakesFrom c peer ms (taken ++ more) rest where
  sent := by rw [hsent, List.flatMap_append, List.append_assoc, ← (takeFrames_spec htake).1]
  longest gs hgs := by
    have hprefix := prefix_takeFrames hgs
    rwa [hsent, takeFrames_flatMap_encode, htake] at hprefix
  queued := by
    rw [htaken, List.map_append]
    exact List.prefix_append _ _
  ended hover := absurd hover hsession.running
  failed hover := absurd hover hsession.running
  counted m := clientErrors_eq c m _
  goesOn _ := by
    rw [failuresOf_trace, hends]
    exact ⟨rfl, rfl⟩
  atRest hquiet := by
    obtain ⟨hopen, htorn⟩ := waiting_of_quiet hsession hlistener hquiet
    rw [takeFrames_of_incomplete htorn] at htake
    cases htake
    rw [htaken, List.append_nil]
    refine ⟨rfl, iff_of_false hsession.running ?_⟩
    rintro (⟨n, bad⟩ | hends)
    · exact bad.2 (htorn n bad.1).1
    · exact hends hopen

/-! ## A session from its beginning -/

/-- Client `c` comes with input `i` after `before`, from address `peer`, and it gets a session. -/
structure Comes (r : Relay) (before : List Move) (i : Input) (c : Nat) (peer : SocketAddress) :
    Prop where
  number : c = (r.final before).clients.length
  session : i = .serve peer ∨ i = .dial peer ∧ (r.final before).acceptor.hasListener = true

theorem Comes.inSession {before : List Move} {i : Input} (h : r.Comes before i c peer) :
    (r.final (before ++ [.input i])).InSession c peer {} := by
  have hnew (k : Connection) (hinput : k.input = {}) (hphase : k.phase ≠ .ended) :
      ((r.final before).addClient peer (some k)).2.InSession c peer {} := by
    have hx : ((r.final before).addClient peer (some k)).2.client? c =
        some ⟨peer, { capacity := (r.final before).mailboxCapacity }, some k⟩ := by
      rw [h.number]
      simp [addClient, client?]
    exact .of_client hx rfl (congrArg some hinput) fun hended => hphase (Option.some.inj hended)
  rw [final_append, final_cons, final_nil]
  rcases h.session with rfl | ⟨rfl, hopen⟩
  · exact hnew { phase := .accepted } rfl (by simp)
  · rw [show (r.final before).move (.input (.dial peer)) =
      (((r.final before).addClient peer (some { phase := .waiting })).2, []) from if_pos hopen]
    exact hnew { phase := .waiting } rfl (by simp)

/-- **What a session takes from its client.** A client comes to a relay that has been through
anything but a cancellation. Then it sends what it likes, in pieces of any size, and may end that,
while all others do what they like, responses to it included. As long as the relay is not cancelled
and no response fails to be written, its session queues the frames of the longest beginning of the
bytes that is made of frames, in order, byte for byte and in the class of its address. It ends at
the first bad header, or at the end of the bytes, and queues nothing after that; and it adds one
client error just if the bytes are not frames and nothing else, or cannot be read to their end. -/
theorem session_takes_the_frames (hr : r.Fresh) {before : List Move} {i : Input}
    (hcomes : r.Comes before i c peer) {ms : List Move} (hbefore : .input .cancel ∉ before)
    (hms : .input .cancel ∉ ms)
    (hwrites : .writeFailed ∉ (r.final (before ++ [.input i])).yields (endsOf c) ms) :
    ∃ frames left, (r.final (before ++ [.input i])).TakesFrom c peer ms frames left := by
  have hcancelled : (r.final (before ++ [.input i])).cancelled = false := by
    rw [cancelled_final, hr.cancelled]
    rcases hcomes.session with rfl | ⟨rfl, -⟩ <;> simpa using hbefore
  have hlistener := none_waiting hr.clients (before ++ [.input i] ++ ms)
  rw [final_append] at hlistener
  obtain ⟨taken, left, hsent, htaken, hend⟩ :=
    exists_intake hcomes.inSession hcancelled hms hwrites
  rw [stream_new] at hsent hend
  rcases hend with ⟨hsession, hends⟩ | ⟨how, hhow, hover, hends⟩
  · exact ⟨_, _, takesFrom_of_running hsent rfl htaken hsession hends hlistener⟩
  · exact ⟨taken, left, takesFrom_of_ended hsent htaken hhow hover hends⟩

/-- Another client has come. -/
def firstComer : List Move := [.input (.serve ⟨.v4 10 0 0 9, 40000⟩), .turn (.begin 0)]

/-- The client sends two frames and a bad header behind them, cut inside of the first header. The
first frame is forwarded and its response is written before the second is read. -/
def goodThenBad : List Move :=
  [ .turn (.begin 1), .input (.clientSends 1 [0, 7, 0]), .turn (.intake 1),
    .input (.clientSends 1 [0, 0, 2, 1, 3, 0, 8, 0, 0, 0, 2, 1, 4, 0, 9, 0, 0, 0, 0]),
    .turn (.intake 1), .input .startDispatcher, .turn .take, .turn .record, .turn .write,
    .input (.deviceSends [0, 7, 0, 0, 0, 2, 1, 3]), .turn .route, .turn (.fetch 1),
    .turn (.intake 1), .turn (.deliver 1), .turn (.intake 1), .turn (.intake 1),
    .input (.clientSends 1 [0, 2, 1, 5]), .input (.clientEnds 1 .closed) ]

/-- Both frames are queued, what comes behind them is not, and one error is counted. -/
theorem frames_of_goodThenBad :
    let s := (ofSettings {}).final (firstComer ++ [.input (.serve ⟨.v4 127 0 0 1, 40001⟩)])
    (ofSettings {}).Fresh ∧
      (ofSettings {}).Comes firstComer (.serve ⟨.v4 127 0 0 1, 40001⟩) 1 ⟨.v4 127 0 0 1, 40001⟩ ∧
      ∃ frames left, s.TakesFrom 1 ⟨.v4 127 0 0 1, 40001⟩ goodThenBad frames left ∧
        frames.map (·.encode) = [[0, 7, 0, 0, 0, 2, 1, 3], [0, 8, 0, 0, 0, 2, 1, 4]] ∧
        s.yields (endsOf 1) goodThenBad = [.readFailed (.framing (.invalidLength 0))] ∧
        failuresOf 1 (s.trace goodThenBad) = 1 ∧
        ¬∃ fs : List Frame, sentUntilEnd 1 goodThenBad = fs.flatMap (·.encode) := by
  intro s
  have hr := fresh_ofSettings {}
  have hcomes : (ofSettings {}).Comes firstComer (.serve ⟨.v4 127 0 0 1, 40001⟩) 1
      ⟨.v4 127 0 0 1, 40001⟩ := ⟨by decide +kernel, .inl rfl⟩
  have hwrites : .writeFailed ∉ s.yields (endsOf 1) goodThenBad := by decide +kernel
  obtain ⟨frames, left, h⟩ :=
    session_takes_the_frames hr hcomes (by decide) (by decide) hwrites
  have hover : (s.final goodThenBad).phaseOf 1 = some .ended := by decide +kernel
  have hone : failuresOf 1 (s.trace goodThenBad) = 1 := by decide +kernel
  have hclosed : endingOf 1 goodThenBad = some .closed := by decide +kernel
  have hnot := ((h.failed hover).2.1.mp hone).resolve_right fun ⟨cause, hbroken⟩ => by
    rw [hclosed] at hbroken
    cases hbroken
  refine ⟨hr, hcomes, frames, left, h, ?_, by decide +kernel, hone, hnot⟩
  calc frames.map (·.encode)
      = (frames.map (asking 1 ⟨.v4 127 0 0 1, 40001⟩)).map (·.2.frame.encode) := by
        rw [List.map_map]
        rfl
    _ = (s.yields (queuedBy 1) goodThenBad).map (·.2.frame.encode) := by rw [(h.ended hover).1]
    _ = [[0, 7, 0, 0, 0, 2, 1, 3], [0, 8, 0, 0, 0, 2, 1, 4]] := by decide +kernel

end Relay

end ModbusRelay
