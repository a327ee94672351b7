import ModbusRelay.Proofs.Relay.Missing
import ModbusRelay.Proofs.Relay.Unsent

/-!
A request that the table refuses is as if it had never been sent.

`Way` is the way of a request from its client into the hands of the dispatcher, and `Way.rest` are
the moves of the same run without the request: its client does not send the bytes, and the turns in
which it is read, taken and refused pass without anything done. `refusal_leaves_no_trace` compares
the two runs move by move. What is left of the request are its own lines in the log: one when a
session has read it, for debugging, and one when it is refused.

A table that is full is purged before it refuses, so that the refusal changes nothing rests on an
invariant of every run: the table holds no more entries than its capacity (`pending_final`).
-/

namespace ModbusRelay

namespace Relay

/-! ## Where a request is put on the queue, and where it is refused -/

section Ends

variable {r : Relay} {m : Move} {p : Priority} {q : Request}

/-- The move that puts a request on the queue: a push, or a session that has read it. -/
theorem entry_of_queued (h : Trace.queued (r.move m).2 = [(p, q)]) :
    (m = .input (.push q.requester.client p q.frame) ∧
      r.move m = ({ r with queue := r.queue.push p q }, [.enqueued p q])) ∨
    ∃ x unread input, m = .turn (.intake q.requester.client) ∧
      r.client? q.requester.client = some x ∧ x.Free ∧ x.reader? = some unread ∧
      unread.next = (.item (.frame q.frame), input) ∧
      r.move m = ({ r.withReader q.requester.client fun _ => input with queue := r.queue.push p q },
        [.received p q, .enqueued p q]) := by
  have hs := step_move r m
  cases m with
  | input i =>
    generalize hr' : (r.move (.input i)).1 = r' at hs
    generalize hes : (r.move (.input i)).2 = es at h hs
    cases hs with
    | aside _ _ _ _ _ _ quiet =>
      rw [show Trace.queued es = [] from Trace.queued_aside quiet] at h
      cases h
    | pushed peer =>
      cases h
      exact .inl ⟨rfl, Prod.ext hr' hes⟩
    | _ => cases h
  | turn t =>
    have ht : ∃ c, t = .intake c := by
      generalize (r.move (.turn t)).1 = r' at hs
      generalize (r.move (.turn t)).2 = es at h hs
      cases hs with
      | aside _ _ _ _ _ _ quiet =>
        rw [show Trace.queued es = [] from Trace.queued_aside quiet] at h
        cases h
      | received => exact ⟨_, rfl⟩
      | routed _ _ _ verdict =>
        rw [(verdict.trace _).2.1] at h
        cases h
      | lost _ told =>
        rw [(r.trace_loseDevice told).2.2.1] at h
        cases h
      | _ => cases h
    obtain ⟨c, rfl⟩ := ht
    obtain ⟨x, unread, f, input, hx, hfree, hreader, hnext, hmove⟩ :=
      intake_of_queued (r := r) (c := c) (by rw [h]; simp)
    rw [hmove] at h
    cases h
    exact .inr ⟨x, unread, input, rfl, hx, hfree, hreader, hnext, hmove⟩

/-- Only the dispatcher refuses a request, when it records what it holds. In a bounded table that
changes nothing but what the dispatcher does. -/
theorem move_of_refused (hr : r.pending.Bounded) {cause : PendingError}
    (h : .refused q cause ∈ (r.move m).2) :
    m = .turn .record ∧ (∃ p, r.dispatcher = .holding p q) ∧
      r.move m = (r.withWork r.queue .idle, [.pending r.pending.size, .refused q cause]) := by
  obtain ⟨rfl, holding, pending, answer, hrelay, hevents⟩ := (step_move r m).of_refused h
  have hpending : pending = r.pending := by
    have hsame := PendingTable.insert_of_error hr (congrArg Prod.fst answer)
    rw [answer] at hsame
    exact hsame
  subst hpending
  exact ⟨rfl, holding, Prod.ext hrelay hevents⟩

end Ends

/-! ## The run without the request -/

/-- The moves before the one that puts a request on the queue, if the request had not been sent:
there are none to change if it was put there without a session. -/
inductive Unsent (q : Request) (before : List Move) : Move → List Move → Prop where
  | pushed {p : Priority} : Unsent q before (.input (.push q.requester.client p q.frame)) before
  | read {u v : List UInt8}
      (bytes : sentBy q.requester.client before = u ++ q.frame.encode ++ v) :
      Unsent q before (.turn (.intake q.requester.client))
        (cutSends q.requester.client u.length (u.length + q.frame.encode.length) before)

/-- If a session has read the request, its client sends all that it sent but the frame. -/
theorem Unsent.sentBy {q : Request} {before unsent : List Move} {t : Turn}
    (h : Unsent q before (.turn t) unsent) :
    ∃ u v, sentBy q.requester.client before = u ++ q.frame.encode ++ v ∧
      sentBy q.requester.client unsent = u ++ v := by
  cases h with
  | @read u v bytes =>
    refine ⟨u, v, bytes, ?_⟩
    rw [sentBy_cutSends (Nat.le_add_right _ _), bytes, cut_middle]

/-- The way of a request of class `p` into the hands of the dispatcher: `entry` puts it on the
queue, and after the moves `between` the dispatcher takes it and holds it during the moves
`held`. -/
structure Way (r : Relay) (p : Priority) (q : Request) (ps : List Move) where
  before : List Move
  entry : Move
  between : List Move
  held : List Move
  /-- The moves before `entry` when the request is not sent. -/
  unsent : List Move
  split : ps = before ++ entry :: between ++ .turn .take :: held
  queued : Trace.queued ((r.final before).move entry).2 = [(p, q)]
  taken : ((r.final (before ++ entry :: between)).move (.turn .take)).2 = [.taken p q]
  holding : (r.final ps).dispatcher = .holding p q
  without : Unsent q before entry unsent

/-- The moves without the request: it is not sent, and what is done with it is not done. -/
def Way.rest {r : Relay} {p : Priority} {q : Request} {ps : List Move} (w : r.Way p q ps)
    (post : List Move) : List Move :=
  w.unsent ++ .idle :: w.between ++ .idle :: w.held.map Move.pausing ++ .idle :: post

/-- How often a session has read the request: not at all if it was put on the queue without one. -/
def Way.readings {r : Relay} {p : Priority} {q : Request} {ps : List Move} (w : r.Way p q ps) :
    Nat :=
  (Trace.received ((r.final w.before).move w.entry).2).length

section Without

variable {r r₁ r₂ : Relay} {ps : List Move} {p : Priority} {q : Request} {m : Move}

/-- A move in place of which the other relay makes none. -/
theorem alongside_idle (h : Agrees r₁ r₂) (h' : Agrees (r₁.move m).1 r₂) :
    Alongside r₁ [m] r₂ [.idle] (r₁.move m).2 := by
  have hskip : Alongside r₁ [m] r₂ [.idle] ((r₁.move m).2 ++ []) := .skip h rfl (.nil h')
  rwa [List.append_nil] at hskip

/-- Up to where the request is put on the queue. -/
theorem exists_unsent (hr : r.Fresh) {before : List Move} {entry : Move}
    (hqueued : Trace.queued ((r.final before).move entry).2 = [(p, q)]) :
    let s := r.final (before ++ [entry])
    let xs : Trace := ((r.final before).move entry).2
    ∃ unsent, Unsent q before entry unsent ∧
      Alongside r (before ++ [entry]) r (unsent ++ [.idle]) xs ∧
      r.final (unsent ++ [.idle]) = s.withWork (r.final before).queue s.dispatcher ∧
      (xs = [.enqueued p q] ∨ xs = [.received p q, .enqueued p q]) := by
  intro s xs
  have hs : s = ((r.final before).move entry).1 := by simp [s]
  rcases entry_of_queued hqueued with ⟨rfl, hmove⟩ | ⟨x, unread, input, rfl, hx, hfree, hreader,
    hnext, hmove⟩
  · refine ⟨before, .pushed, ?_, ?_, .inl (congrArg Prod.snd hmove)⟩
    · refine (Alongside.refl r before).append (alongside_idle (.refl _) ?_)
      rw [hmove]
      exact .withWork _ _ _
    · rw [hs, hmove, final_append]
      rfl
  · obtain ⟨u, v, hbytes, halong, hfinal⟩ :=
      cut_frame hr.clients ⟨x, unread, input, hx, hfree, hreader, hnext⟩
    have hinput : (r.final before).withReader q.requester.client (·.cut 0 q.frame.encode.length) =
        (r.final before).withReader q.requester.client fun _ => input :=
      withReader_congr _ _ _ hx hreader (FrameReader.cut_of_next hnext)
    refine ⟨_, .read hbytes, halong.append ?_, ?_, .inr (congrArg Prod.snd hmove)⟩
    · rw [hfinal]
      refine alongside_idle (.withReader _ _ _) ?_
      rw [hmove, hinput]
      exact .withWork _ _ _
    · rw [hs, hmove, final_append, hfinal, hinput]
      rfl

/-- From where the dispatcher has taken the request on. -/
theorem holds_of_waits {B : List Request} (h : Waits p q [] B r₁ r₂) (hidle : r₁.dispatcher = .idle)
    {l : Lanes Request} (hpop : r₁.queue.lanes.pop? = some ((p, q), l)) :
    Holds p q (r₁.move (.turn .take)).1 r₂ ∧ (r₁.move (.turn .take)).2 = [.taken p q] := by
  rcases move_take h.awake₁ with ⟨p', q', l', w, -, hpop', hmove, hl, hawake⟩ | ⟨hnone, -⟩
  · rw [hpop] at hpop'
    cases hpop'
    rw [hmove]
    refine ⟨⟨rfl, ?_, hawake, h.awake₂, ?_⟩, rfl⟩
    · have hsame := h.same
      rw [hidle] at hsame
      rw [hsame]
      rfl
    · refine Lanes.ext_lane fun p' => ?_
      rw [withWork_queue, hl]
      have hlane := Lanes.lane_of_pop? hpop p'
      by_cases hp : p = p'
      · subst hp
        rw [h.lane₁, if_pos rfl] at hlane
        rw [h.lane₂]
        exact (List.cons.inj hlane).2
      · rw [if_neg hp] at hlane
        rw [h.others p' (Ne.symm hp), hlane]
  · rw [hnone hidle] at hpop
    cases hpop

/-- Without a request that is refused the relay goes the same way, and only what happens to the
request does not happen. -/
theorem exists_way (hr : r.Fresh) {cause : PendingError}
    (hrefused : .refused q cause ∈ ((r.final ps).move m).2) :
    ∃ (p : Priority) (w : r.Way p q ps), ∀ post,
      let entering : Trace := ((r.final w.before).move w.entry).2
      (entering = [.enqueued p q] ∨ entering = [.received p q, .enqueued p q]) ∧
        Alongside r (ps ++ m :: post) r (w.rest post)
          (entering ++
            [.taken p q, .pending (r.final ps).pending.size, .refused q cause]) := by
  obtain ⟨rfl, ⟨p, hholding⟩, hmove⟩ := move_of_refused (pending_final hr.bounded ps).2.2.2 hrefused
  obtain ⟨taking, held, rfl, hidle, hpop, hheld⟩ := exists_taking hr ps hholding
  have hlane := Lanes.lane_of_pop? hpop p
  rw [if_pos rfl] at hlane
  obtain ⟨before, entry, between, rfl, hqueued, hbetween, hwaits⟩ :=
    exists_origin hr taking (A := []) hlane
  obtain ⟨hholds, htaken⟩ := holds_of_waits hwaits hidle hpop
  obtain ⟨unsent, hunsent, hentry, hfinal, hentering⟩ := exists_unsent hr hqueued
  obtain ⟨hheld, hholds'⟩ := hheld _ (by rw [final_append]; exact hholds)
  refine ⟨p, ⟨before, entry, between, held, unsent, rfl, hqueued, htaken, hholding, hunsent⟩,
    fun post => ⟨hentering, ?_⟩⟩
  have hgone := hholds'.gone
  have htake := alongside_idle hwaits.agrees hholds.agrees
  have hrecord := alongside_idle hholds'.agrees (by rw [hmove]; exact hgone.agrees)
  rw [htaken] at htake
  rw [hmove] at hrecord
  -- The states on the way of the first run, in terms of the pieces of the run.
  have hbefore : r.final (before ++ entry :: between) =
      (r.final (before ++ [entry])).final between := by simp
  have hafter : r.final (before ++ entry :: between ++ .turn .take :: held) =
      (((r.final (before ++ [entry])).final between).final [.turn .take]).final held := by simp
  rw [final_append _ (before ++ entry :: between)] at hheld
  rw [hbefore] at htake hheld
  rw [hafter] at hrecord hmove hgone
  rw [← hfinal] at hbetween htake hheld hrecord hgone
  have hpost := hgone.alongside post
  rw [show Relay.withWork _ _ _ = _ from (congrArg Prod.fst hmove).symm] at hpost
  have hall := hentry.append (hbetween.append (htake.append (hheld.append (hrecord.append hpost))))
  rw [hafter]
  simpa [Way.rest] using hall

end Without

/-! ## What the request leaves behind -/

/-- What can be told from two runs of which only the first has request `q` of class `p`: the
counters are apart by `queued` and `refused`, and so is the log, by the lines of the request as it is
read and refused. -/
structure Unnoticed (p : Priority) (q : Request) (cause : PendingError) (queued refused : Nat)
    (o₁ o₂ : Outcome) : Prop where
  /-- The device has got the same bytes. -/
  device : o₂.1.device.output = o₁.1.device.output
  pending : o₂.1.pending = o₁.1.pending
  clock : o₂.1.clock = o₁.1.clock
  /-- The same responses were put into each mailbox. -/
  inboxed : ∀ c, Trace.inboxed o₂.2 c = Trace.inboxed o₁.2 c
  inbox : ∀ c, o₂.1.inbox c = o₁.1.inbox c
  /-- Each client has got the same bytes. -/
  output : ∀ c, (o₂.1.client? c).map Client.output = (o₁.1.client? c).map Client.output
  metrics : Metrics.SameBut p queued refused (.ofEvents o₁.2) (.ofEvents o₂.2)
  /-- At every level, down to that for debugging. -/
  log : LeftOut (List.replicate queued (readingLine p q) ++
      List.replicate refused (refusalLine q cause))
    (Trace.log o₁.2) (Trace.log o₂.2)

/-- The log lines of a request that is refused, as far as it has come. -/
theorem log_of_isPrefix {p : Priority} {q : Request} {cause : PendingError} {size : Nat}
    {entering ys : Trace}
    (hentering : entering = [.enqueued p q] ∨ entering = [.received p q, .enqueued p q])
    (hys : ys <+: entering ++ [.taken p q, .pending size, .refused q cause]) :
    Trace.log ys = List.replicate (Trace.received ys).length (readingLine p q) ++
      List.replicate (Trace.refused ys).length (refusalLine q cause) := by
  rcases hentering with rfl | rfl
  · simp only [List.cons_append, List.nil_append, List.prefix_cons_iff, List.prefix_nil] at hys
    rcases hys with rfl | ⟨_, rfl, rfl | ⟨_, rfl, rfl | ⟨_, rfl, rfl | ⟨_, rfl, rfl⟩⟩⟩⟩ <;> rfl
  · simp only [List.cons_append, List.nil_append, List.prefix_cons_iff, List.prefix_nil] at hys
    rcases hys with
      rfl | ⟨_, rfl, rfl | ⟨_, rfl, rfl | ⟨_, rfl, rfl | ⟨_, rfl, rfl | ⟨_, rfl, rfl⟩⟩⟩⟩⟩ <;> rfl

/-- What is left out of the events when a refused request is left out. -/
theorem unnoticed_of_leftOut {o₁ o₂ : Outcome} (hagrees : Agrees o₁.1 o₂.1) {p : Priority}
    {q : Request} {cause : PendingError} {ys : Trace} (hys : ∀ e ∈ ys, e.ofRefusal p = true)
    (hlog : Trace.log ys = List.replicate ys.received.length (readingLine p q) ++
      List.replicate ys.refused.length (refusalLine q cause))
    (hleft : LeftOut ys o₁.2 o₂.2) :
    Unnoticed p q cause ys.received.length ys.refused.length o₁ o₂ where
  device := by rw [hagrees.device]
  pending := hagrees.pending
  clock := hagrees.clock
  inboxed c := by
    unfold Trace.inboxed
    have hrouted := hleft.filterMap RelayEvent.routed?
    rw [show ys.filterMap RelayEvent.routed? = [] from routed_of_refusal hys] at hrouted
    rw [show Trace.routed o₁.2 = Trace.routed o₂.2 from hrouted.eq_of_nil]
  inbox := hagrees.inbox
  output := hagrees.output
  metrics := by
    have hmetrics := hleft.metrics hys (Metrics.sameBut_refl p {})
    rwa [Nat.zero_add, Nat.zero_add] at hmetrics
  log := by
    rw [← hlog]
    exact hleft.filterMap RelayEvent.logLine?

section Refusal

variable {r : Relay} {ps : List Move} {p : Priority} {q : Request} {m : Move} {cause : PendingError}

theorem onlyDispatcherRecords_rest (w : r.Way p q ps) {post : List Move}
    (h : OnlyDispatcherRecords (ps ++ m :: post)) : OnlyDispatcherRecords (w.rest post) := by
  have hunsent : OnlyDispatcherRecords w.unsent := by
    have hbefore : OnlyDispatcherRecords w.before := by
      intro n hn
      refine h n ?_
      rw [w.split]
      simp [hn]
    have hwithout := w.without
    generalize w.unsent = unsent at hwithout ⊢
    generalize w.entry = entry at hwithout
    cases hwithout with
    | pushed => exact hbefore
    | read => exact registers_cutSends hbefore
  have hpausing (n : Move) : n.pausing.registers = n.registers := by
    cases n with
    | input i => rfl
    | turn t => cases t <;> rfl
  intro n hn
  rw [w.split] at h
  simp only [Way.rest, List.append_assoc, List.cons_append, List.mem_append, List.mem_cons,
    List.mem_map] at hn
  rcases hn with hn | rfl | hn | rfl | ⟨n', hn', rfl⟩ | rfl | hn
  · exact hunsent n hn
  · rfl
  · exact h n (by simp [hn])
  · rfl
  · rw [hpausing]
    exact h n' (by simp [hn'])
  · rfl
  · exact h n (by simp [hn])

/-- **A refused request is as if it had never been sent.** Whatever request the table refuses, in
whatever run, and however the run goes on: without that request, and with all other moves as they
were, everything is the same at every step, and the metrics and the log are apart by that request
only: by the counters of queued and of refused requests, and by its own lines, as it is read and as
it is refused. The gauge of requests in flight is the same as long as nobody but the dispatcher
records clients, since a refusal publishes it and the other run has none. -/
theorem refusal_leaves_no_trace (hr : r.Fresh)
    (hrefused : .refused q cause ∈ ((r.final ps).move m).2) :
    ∃ (p : Priority) (w : r.Way p q ps), ∀ post,
      let all := ps ++ m :: post
      (w.rest post).length = all.length ∧ w.readings ≤ 1 ∧ ∀ n, ∃ queued refused,
        queued ≤ w.readings ∧ refused ≤ 1 ∧
        (all.length ≤ n → queued = w.readings ∧ refused = 1) ∧
        Unnoticed p q cause queued refused (r.run (all.take n)) (r.run ((w.rest post).take n)) ∧
        (OnlyDispatcherRecords all →
          (Metrics.ofEvents (r.trace ((w.rest post).take n))).pending =
            (Metrics.ofEvents (r.trace (all.take n))).pending) := by
  obtain ⟨p, w, hw⟩ := exists_way hr hrefused
  refine ⟨p, w, fun post => ?_⟩
  obtain ⟨hentering, halong⟩ := hw post
  have hreadings : w.readings =
      (Trace.received ((r.final w.before).move w.entry).2).length := rfl
  rw [hreadings]
  generalize ((r.final w.before).move w.entry).2 = entering at hentering halong
  intro all
  refine ⟨halong.length_eq, ?_, fun n => ?_⟩
  · rcases hentering with rfl | rfl
    · exact Nat.zero_le 1
    · exact Nat.le_refl 1
  obtain ⟨hagrees, ys, hys, hend, hleft⟩ := halong.at_step n
  have hxs : ∀ e ∈ entering ++ [.taken p q, .pending (r.final ps).pending.size, .refused q cause],
      e.ofRefusal p = true := by
    rcases hentering with rfl | rfl <;> simp [RelayEvent.ofRefusal]
  have hreceived : Trace.received ys <+: Trace.received entering := by
    have hread := hys.filterMap RelayEvent.received?
    rcases hentering with rfl | rfl <;> exact hread
  have hrefusals : Trace.refused ys <+: [(q, cause)] := by
    have hread := hys.filterMap RelayEvent.refused?
    rcases hentering with rfl | rfl <;> exact hread
  refine ⟨(Trace.received ys).length, (Trace.refused ys).length, hreceived.length_le,
    hrefusals.length_le, ?_,
    unnoticed_of_leftOut hagrees (fun e he => hxs e (hys.subset he))
      (log_of_isPrefix hentering hys) hleft, fun honly => ?_⟩
  · intro hn
    rw [hend hn]
    rcases hentering with rfl | rfl <;> exact ⟨rfl, rfl⟩
  · have hsublist (ms : List Move) (h : OnlyDispatcherRecords ms) :
        OnlyDispatcherRecords (ms.take n) := fun m hm => h m (List.mem_of_mem_take hm)
    rw [pending_ofEvents hr (hsublist _ (onlyDispatcherRecords_rest w honly)),
      pending_ofEvents hr (hsublist _ honly), hagrees.pending]

end Refusal

/-- A client sends two requests with one id at once, and the dispatcher holds the second. -/
def repeatedId : List Move :=
  [ .input (.serve ⟨.v4 10 0 0 9, 40000⟩), .turn (.begin 0),
    .input (.clientSends 0 [0, 7, 0, 0, 0, 2, 1, 3, 0, 7, 0, 0]),
    .input (.clientSends 0 [0, 2, 1, 4]), .turn (.intake 0), .turn (.intake 0),
    .input .startDispatcher, .turn .take, .turn .record, .turn .write, .turn .take ]

/-- The second request. -/
def repeated : Request :=
  ⟨⟨0, ⟨.v4 10 0 0 9, 40000⟩⟩, ⟨[0, 7, 0, 0, 0, 2, 1, 4], ⟨7, 0, 2, 1⟩, rfl, rfl⟩⟩

/-- The second request is refused, and is as if it had not been sent however the run goes on. -/
theorem refusal_of_repeatedId :
    (ofSettings {}).Fresh ∧
      .refused repeated (.duplicate 7 0) ∈
        (((ofSettings {}).final repeatedId).move (.turn .record)).2 ∧
      ∃ (p : Priority) (w : (ofSettings {}).Way p repeated repeatedId), ∀ post,
        Unnoticed p repeated (.duplicate 7 0) w.readings 1
          ((ofSettings {}).run (repeatedId ++ .turn .record :: post))
          ((ofSettings {}).run (w.rest post)) := by
  have hr : (ofSettings {}).Fresh := fresh_ofSettings {}
  have hrefused : .refused repeated (.duplicate 7 0) ∈
      (((ofSettings {}).final repeatedId).move (.turn .record)).2 := by decide +kernel
  obtain ⟨p, w, hw⟩ := refusal_leaves_no_trace hr hrefused
  refine ⟨hr, hrefused, p, w, fun post => ?_⟩
  obtain ⟨hlength, -, hstep⟩ := hw post
  obtain ⟨queued, refused, -, -, hend, hsame, -⟩ :=
    hstep (repeatedId ++ .turn .record :: post).length
  obtain ⟨rfl, rfl⟩ := hend (Nat.le_refl _)
  rw [List.take_length, ← hlength, List.take_length] at hsame
  exact hsame

/-! ## Where a refusal shows -/

/-- The way of the second request: without it the client sends only the first. -/
def wayOfRepeated : (ofSettings {}).Way .normal repeated repeatedId where
  before := repeatedId.take 5
  entry := .turn (.intake 0)
  between := [.input .startDispatcher, .turn .take, .turn .record, .turn .write]
  held := []
  unsent := cutSends 0 8 16 (repeatedId.take 5)
  split := rfl
  queued := by decide +kernel
  taken := by decide +kernel
  holding := by decide +kernel
  without := by
    have hsent : sentBy repeated.requester.client (repeatedId.take 5) =
        [0, 7, 0, 0, 0, 2, 1, 3] ++ repeated.frame.encode ++ [] := by decide +kernel
    exact .read (q := repeated) hsent

/-- A client is recorded past the dispatcher, and then puts a request with the same id on the
queue. -/
def recordedAside : List Move :=
  [ .input (.attach ⟨.v4 10 0 0 9, 40000⟩), .input (.register 0 5),
    .input (.push 0 .normal ⟨[0, 5, 0, 0, 0, 6, 1, 3, 0, 99, 0, 1], ⟨5, 0, 6, 1⟩, rfl, rfl⟩),
    .input .startDispatcher, .turn .take ]

/-- The request that is refused then. -/
def recordedAsideRequest : Request :=
  ⟨⟨0, ⟨.v4 10 0 0 9, 40000⟩⟩,
    ⟨[0, 5, 0, 0, 0, 6, 1, 3, 0, 99, 0, 1], ⟨5, 0, 6, 1⟩, rfl, rfl⟩⟩

/-- Its way: without it the client puts nothing on the queue. -/
def wayOfRecordedAside : (ofSettings {}).Way .normal recordedAsideRequest recordedAside where
  before := recordedAside.take 2
  entry := .input (.push 0 .normal recordedAsideRequest.frame)
  between := [.input .startDispatcher]
  held := []
  unsent := recordedAside.take 2
  split := rfl
  queued := by decide +kernel
  taken := by decide +kernel
  holding := by decide +kernel
  without := .pushed

/-- A refused request that a session has read is missing in the log with two lines and not with that
of the refusal alone. And where others record clients too, which the workers never do, a refusal
shows in the gauge: it publishes their entries. -/
theorem refusal_shows_in_log_and_gauge :
    (¬∀ (r : Relay) (ps : List Move) (q : Request) (cause : PendingError) (p : Priority)
        (w : r.Way p q ps), r.Fresh → OnlyDispatcherRecords (ps ++ [.turn .record]) →
        .refused q cause ∈ ((r.final ps).move (.turn .record)).2 →
        LeftOut [refusalLine q cause] (Trace.log (r.trace (ps ++ [.turn .record])))
          (Trace.log (r.trace (w.rest [])))) ∧
    ¬∀ (r : Relay) (ps : List Move) (q : Request) (cause : PendingError) (p : Priority)
        (w : r.Way p q ps), r.Fresh →
        .refused q cause ∈ ((r.final ps).move (.turn .record)).2 →
        (Metrics.ofEvents (r.trace (w.rest []))).pending =
          (Metrics.ofEvents (r.trace (ps ++ [.turn .record]))).pending := by
  constructor
  · intro h
    have hlog := (h (ofSettings {}) repeatedId repeated (.duplicate 7 0) .normal wayOfRepeated
      (fresh_ofSettings {}) (by decide +kernel) (by decide +kernel)).length_eq
    revert hlog
    decide +kernel
  · intro h
    have hgauge := h (ofSettings {}) recordedAside recordedAsideRequest (.duplicate 5 0) .normal
      wayOfRecordedAside (fresh_ofSettings {}) (by decide +kernel)
    revert hgauge
    decide +kernel

end Relay

end ModbusRelay
