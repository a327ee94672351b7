import Mathlib.Data.List.Forall2
import ModbusRelay.Proofs.Relay.Answer
import ModbusRelay.Proofs.Relay.Mailbox

/-!
Each response goes to the client whose request it answers.

`Tracked` ties the table to the requests that are outstanding at the device: each of them is
recorded under its transaction id for its own requester, no two share an id, and the request that
the dispatcher is about to write shares its id with none of them. That is kept by every step as long
as the table rejects duplicates and no entry is old when a request is recorded, so a response finds
the requester of the very request that it answers (`responses_reach_their_requesters`).
-/

namespace ModbusRelay

namespace Relay

/-- No entry has reached the timeout when a request is recorded. -/
def YoungAtInserts (r : Relay) (ms : List Move) : Prop :=
  ∀ ps, ps ++ [.turn .record] <+: ms → (r.final ps).record?.isSome →
    (r.final ps).pending.Young (r.final ps).clock

instance (r : Relay) (ms : List Move) : Decidable (r.YoungAtInserts ms) :=
  decidable_of_iff (∀ ps ∈ ms.inits, ps ++ [.turn .record] <+: ms → (r.final ps).record?.isSome →
      (r.final ps).pending.Young (r.final ps).clock) <| by
    constructor
    · intro h ps hm
      exact h ps ((List.mem_inits _ _).mpr ((List.prefix_append ps _).trans hm)) hm
    · intro h ps _
      exact h ps

/-- The table names the requester of a request under its id. -/
def Names (r : Relay) (q : Request) : Prop :=
  (r.pending.find? q.transactionId).map (·.value) = some q.requester

/-- Request `i` of those that the device has got is not answered by the first `n` responses. -/
def Unanswered (answered : Nat → Nat) (n i : Nat) : Prop := ∀ k < n, answered k ≠ i

theorem Unanswered.of_succ {answered : Nat → Nat} {n i : Nat} (h : Unanswered answered (n + 1) i) :
    Unanswered answered n i ∧ answered n ≠ i :=
  ⟨fun k hk => h k (Nat.lt_succ_of_lt hk), h n (Nat.lt_succ_self n)⟩

/-- The table keeps track of the requests that are outstanding at the device, which are those of
`got` that none of the first `n` responses answers. -/
structure Tracked (r : Relay) (got : List Request) (answered : Nat → Nat) (n : Nat) : Prop where
  named : ∀ i q, got[i]? = some q → Unanswered answered n i → r.Names q
  distinct : ∀ i j q q', got[i]? = some q → got[j]? = some q' → Unanswered answered n i →
    Unanswered answered n j → q.transactionId = q'.transactionId → i = j
  writing : ∀ q, r.dispatcher = .writing q → r.Names q ∧
    ∀ i q', got[i]? = some q' → Unanswered answered n i → q'.transactionId ≠ q.transactionId

variable {r : Relay} {got : List Request} {answered : Nat → Nat} {n : Nat}

theorem tracked_start (hr : r.Fresh) : r.Tracked [] answered 0 where
  named i q h := by simp at h
  distinct i j q q' h := by simp at h
  writing q h := by
    rcases hr.dispatcher with hd | hd <;> rw [hd] at h <;> cases h

/-- Steps that leave the table alone and begin no write. -/
theorem Tracked.congr {r' : Relay} (h : r.Tracked got answered n)
    (hpending : r'.pending = r.pending)
    (hwriting : ∀ q, r'.dispatcher = .writing q → r.dispatcher = .writing q) :
    r'.Tracked got answered n := by
  have hnames (q : Request) : r'.Names q ↔ r.Names q := by
    unfold Names
    rw [hpending]
  refine ⟨fun i q hi hun => (hnames q).mpr (h.named i q hi hun), h.distinct, fun q hq => ?_⟩
  obtain ⟨hname, hother⟩ := h.writing q (hwriting q hq)
  exact ⟨(hnames q).mpr hname, hother⟩

/-- The answer to request `i` takes the entry of that request, and no other. -/
theorem Tracked.answer (h : r.Tracked got answered n) {q : Request} {id : UInt16}
    (hq : got[answered n]? = some q) (hid : q.transactionId = id)
    (hun : Unanswered answered n (answered n)) {r' : Relay}
    (hpending : r'.pending = (r.pending.take id).2) (hdispatcher : r'.dispatcher = r.dispatcher) :
    r'.Tracked got answered (n + 1) := by
  have hkeep (q' : Request) (hne : q'.transactionId ≠ id) (hname : r.Names q') : r'.Names q' := by
    unfold Names at hname ⊢
    rw [hpending, PendingTable.find?_take, if_neg (Ne.symm hne)]
    exact hname
  refine ⟨fun i q' hi hsucc => ?_, fun i j q₁ q₂ hi hj hsi hsj => ?_, fun q' hw => ?_⟩
  · obtain ⟨hi', hne⟩ := hsucc.of_succ
    refine hkeep q' (fun heq => ?_) (h.named i q' hi hi')
    exact hne (h.distinct _ _ _ _ hq hi hun hi' (by rw [hid, heq]))
  · exact h.distinct i j q₁ q₂ hi hj hsi.of_succ.1 hsj.of_succ.1
  · rw [hdispatcher] at hw
    obtain ⟨hname, hother⟩ := h.writing q' hw
    refine ⟨hkeep q' (fun heq => ?_) hname, fun i q'' hi hsi => hother i q'' hi hsi.of_succ.1⟩
    exact hother _ q hq hun (by rw [hid, heq])

/-- A request is recorded under an id that nothing outstanding has. -/
theorem Tracked.record (h : r.Tracked got answered n) {q : Request} {now : Micros}
    (habsent : r.pending.find? q.transactionId = none) {r' : Relay}
    (hpending : r'.pending = r.pending.put ⟨q.transactionId, q.requester, now⟩)
    (hdispatcher : r'.dispatcher = .writing q) : r'.Tracked got answered n := by
  have hother (i : Nat) (q' : Request) (hi : got[i]? = some q')
      (hun : Unanswered answered n i) : q'.transactionId ≠ q.transactionId := by
    intro heq
    have := h.named i q' hi hun
    unfold Names at this
    rw [heq, habsent] at this
    cases this
  refine ⟨fun i q' hi hun => ?_, h.distinct, fun q' hw => ?_⟩
  · have := h.named i q' hi hun
    unfold Names at this ⊢
    rw [hpending, PendingTable.find?_put, if_neg (Ne.symm (hother i q' hi hun))]
    exact this
  · rw [hdispatcher] at hw
    cases hw
    refine ⟨?_, hother⟩
    unfold Names
    rw [hpending, PendingTable.find?_put, if_pos rfl]
    rfl

/-- The request in hand becomes outstanding. -/
theorem Tracked.forward (h : r.Tracked got answered n) {q : Request}
    (hwriting : r.dispatcher = .writing q) {r' : Relay} (hpending : r'.pending = r.pending)
    (hdispatcher : r'.dispatcher = .idle) : r'.Tracked (got ++ [q]) answered n := by
  obtain ⟨hname, hother⟩ := h.writing q hwriting
  have hnames (q : Request) : r'.Names q ↔ r.Names q := by
    unfold Names
    rw [hpending]
  have hsplit {i : Nat} {q' : Request} (hi : (got ++ [q])[i]? = some q') :
      got[i]? = some q' ∨ i = got.length ∧ q' = q := by
    rw [List.getElem?_append] at hi
    split at hi
    · exact .inl hi
    · next hle =>
      obtain ⟨hlt, heq⟩ := List.getElem?_eq_some_iff.mp hi
      rw [List.length_singleton] at hlt
      refine .inr ⟨by omega, ?_⟩
      simpa using heq.symm
  refine ⟨fun i q' hi hun => ?_, fun i j q₁ q₂ hi hj hui huj hid => ?_, fun q' hw => ?_⟩
  · rcases hsplit hi with hi | ⟨-, rfl⟩
    · exact (hnames q').mpr (h.named i q' hi hun)
    · exact (hnames q').mpr hname
  · rcases hsplit hi with hold | ⟨rfl, rfl⟩ <;> rcases hsplit hj with hold' | ⟨rfl, rfl⟩
    · exact h.distinct i j q₁ q₂ hold hold' hui huj hid
    · exact absurd hid (hother i q₁ hold hui)
    · exact absurd hid.symm (hother j q₂ hold' huj)
    · rfl
  · rw [hdispatcher] at hw
    cases hw

/-- The request in hand is given up, and its entry with it. -/
theorem Tracked.giveUp (h : r.Tracked got answered n) {q : Request}
    (hwriting : r.dispatcher = .writing q) {r' : Relay}
    (hpending : r'.pending = (r.pending.take q.transactionId).2)
    (hdispatcher : r'.dispatcher = .idle) : r'.Tracked got answered n := by
  obtain ⟨-, hother⟩ := h.writing q hwriting
  refine ⟨fun i q' hi hun => ?_, h.distinct, fun q' hw => ?_⟩
  · have := h.named i q' hi hun
    unfold Names at this ⊢
    rw [hpending, PendingTable.find?_take, if_neg (Ne.symm (hother i q' hi hun))]
    exact this
  · rw [hdispatcher] at hw
    cases hw

/-- The responses handed over in a history answer the requests of these numbers, each of them one of
its client's, and none twice. -/
structure HandedOver (answered : Nat → Nat) (es : Trace) (given : List Nat) : Prop where
  once : given.Nodup
  handled : ∀ i ∈ given, ∃ k < es.handled.length, answered k = i
  own : List.Forall₂ (fun i x => ∃ q, es.forwarded[i]? = some q ∧
    q.transactionId = x.2.transactionId ∧ q.requester = x.1) given es.routed

namespace HandedOver

variable {es later : Trace} {given : List Nat}

/-- What is handed over is so in a longer history. -/
theorem mono (h : HandedOver answered es given) (later : Trace) :
    (∀ i ∈ given, ∃ k < (es ++ later).handled.length, answered k = i) ∧
      List.Forall₂ (fun i x => ∃ q, (es ++ later).forwarded[i]? = some q ∧
        q.transactionId = x.2.transactionId ∧ q.requester = x.1) given es.routed := by
  refine ⟨fun i hi => ?_, h.own.imp fun i x => ?_⟩
  · obtain ⟨k, hk, heq⟩ := h.handled i hi
    refine ⟨k, ?_, heq⟩
    rw [Trace.handled_append, List.length_append]
    omega
  · rintro ⟨q, hq, hid, hwho⟩
    refine ⟨q, ?_, hid, hwho⟩
    rw [Trace.forwarded_append, List.getElem?_append_left (List.getElem?_eq_some_iff.mp hq).1, hq]

theorem append (h : HandedOver answered es given) (hrouted : later.routed = []) :
    HandedOver answered (es ++ later) given := by
  obtain ⟨hhandled, hown⟩ := h.mono later
  refine ⟨h.once, hhandled, ?_⟩
  rw [Trace.routed_append, hrouted, List.append_nil]
  exact hown

/-- The request that the next response answers joins those that were given one. -/
theorem snoc (h : HandedOver answered es given) {q : Request} {f : Frame}
    (hq : es.forwarded[answered es.handled.length]? = some q)
    (hid : q.transactionId = f.transactionId)
    (hun : Unanswered answered es.handled.length (answered es.handled.length))
    (hhandled : later.handled = [f]) (hrouted : later.routed = [(q.requester, f)]) :
    HandedOver answered (es ++ later) (given ++ [answered es.handled.length]) := by
  obtain ⟨hbefore, hown⟩ := h.mono later
  refine ⟨List.nodup_append.mpr ⟨h.once, by simp, ?_⟩, ?_, ?_⟩
  · intro i hi j hj heq
    obtain ⟨k, hk, hki⟩ := h.handled i hi
    rw [List.mem_singleton.mp hj] at heq
    exact hun k hk (hki.trans heq)
  · intro i hi
    rcases List.mem_append.mp hi with hi | hi
    · exact hbefore i hi
    · refine ⟨_, ?_, (List.mem_singleton.mp hi).symm⟩
      rw [Trace.handled_append, List.length_append, hhandled]
      exact Nat.lt_succ_self _
  · rw [Trace.routed_append, hrouted]
    refine List.rel_append hown (.cons ⟨q, ?_, hid, rfl⟩ .nil)
    rw [Trace.forwarded_append, List.getElem?_append_left (List.getElem?_eq_some_iff.mp hq).1, hq]

end HandedOver

/-! ## Runs -/

section Run

variable {all : List Move} (hr : r.Fresh) (hpolicy : r.pending.policy = .reject)
  (honly : OnlyDispatcherRecords all) (hyoung : r.YoungAtInserts all)
  (hdevice : r.AnswersOnce all answered)

include hr hdevice

/-- The next response answers a request that is outstanding. -/
theorem next_answers {ms : List Move} (hall : ms <+: all) {f : Frame} {input : FrameReader}
    (hrouting : (r.final ms).routing = true)
    (hnext : (r.final ms).device.input.next = (.item (.frame f), input)) :
    ∃ q, (r.trace ms).forwarded[answered (r.trace ms).handled.length]? = some q ∧
      q.transactionId = f.transactionId ∧
      Unanswered answered (r.trace ms).handled.length (answered (r.trace ms).handled.length) := by
  have hresponse := responses_of_next hr hrouting hnext
  obtain ⟨q, hq, hid⟩ := hdevice.after ms hall _ f hresponse
  refine ⟨q, hq, hid, fun k hk heq => ?_⟩
  have hlt := (List.getElem?_eq_some_iff.mp hresponse).1
  have hle := (responses_mono hall).length_le
  exact Nat.ne_of_lt hk (hdevice.once k _ (by omega) (by omega) heq)

include hpolicy honly hyoung

theorem tracked (ms : List Move) (hall : ms <+: all) (hrouting : (r.final ms).routing = true) :
    (r.final ms).Tracked (r.trace ms).forwarded answered (r.trace ms).handled.length := by
  revert hrouting
  refine prefix_induction (r := r) (P := fun _ s es => s.routing = true →
    s.Tracked es.forwarded answered es.handled.length) (fun _ => tracked_start hr) ?_ ms hall
  intro ps m r' (es : Trace) hm ih hs hrouting'
  have hps : ps <+: all := (List.prefix_append ps [m]).trans hm
  rw [Trace.forwarded_append, Trace.handled_append]
  have hquiet (hrouting : (r.final ps).routing = true)
      (hpending : r'.pending = (r.final ps).pending)
      (hwriting : ∀ q, r'.dispatcher = .writing q → (r.final ps).dispatcher = .writing q)
      (hforwarded : es.forwarded = []) (hhandled : es.handled = []) :
      r'.Tracked ((r.trace ps).forwarded ++ es.forwarded) answered
        ((r.trace ps).handled ++ es.handled).length := by
    rw [hforwarded, hhandled, List.append_nil, List.append_nil]
    exact (ih hrouting).congr hpending hwriting
  have hinsert (q : Request) (hrecord : ps ++ [.turn .record] <+: all)
      {p : Priority} (holding : (r.final ps).dispatcher = .holding p q) :
      let o := (r.final ps).pending.insert q.transactionId q.requester (r.final ps).clock
      o.1 = .ok none ∧ (r.final ps).pending.find? q.transactionId = none ∧
          o.2 = (r.final ps).pending.put ⟨q.transactionId, q.requester, (r.final ps).clock⟩ ∨
        (∃ cause, o.1 = .error cause) ∧ o.2 = (r.final ps).pending :=
    PendingTable.insert_of_young ((policy_final hr ps).trans hpolicy)
      (hyoung ps hrecord (by unfold record?; rw [holding]; rfl))
  cases hs with
  | aside _ _ _ _ _ _ quiet =>
    exact hquiet hrouting' rfl (fun q hq => hq) (Trace.forwarded_aside quiet)
      (Trace.handled_aside quiet)
  | pushed | received | drained | deviceBroke => exact hquiet hrouting' rfl (fun q hq => hq) rfl rfl
  | registered => cases honly _ (hm.subset (List.mem_append_right ps List.mem_cons_self))
  | deviceSent | deviceEnded =>
    rw [withDeviceInput_routing] at hrouting'
    refine hquiet hrouting' (withDeviceInput_pending _ _) (fun q hq => ?_) rfl rfl
    rw [withDeviceInput_dispatcher] at hq
    exact hq
  | slept => exact hquiet hrouting' rfl (fun q hq => hq) rfl rfl
  | started | taken | dispatcherUnused | dispatcherStopped =>
    refine hquiet hrouting' rfl (fun q hq => ?_) rfl rfl
    cases hq
  | @routed f input e clients routing next verdict =>
    obtain ⟨q, hq, hid, hun⟩ := next_answers hr hdevice hps routing next
    obtain ⟨hhandled, -, -, -, -, hforwarded⟩ := verdict.trace
      ((r.final ps).pending.take f.transactionId).2.size
    rw [hforwarded, hhandled, List.append_nil, List.length_append]
    exact (ih routing).answer hq hid hun rfl rfl
  | lost => cases hrouting'
  | routerStopped => cases hrouting'
  | @recorded p q pending holding answer =>
    have hanswer := hinsert q hm holding
    rw [answer] at hanswer
    rcases hanswer with ⟨-, habsent, hput⟩ | ⟨⟨cause, hcause⟩, -⟩
    · show Tracked _ ((r.trace ps).forwarded ++ []) answered ((r.trace ps).handled ++ []).length
      rw [List.append_nil, List.append_nil]
      exact (ih hrouting').record habsent hput rfl
    · cases hcause
  | @displaced p q orphan pending holding answer =>
    have hanswer := hinsert q hm holding
    rw [answer] at hanswer
    rcases hanswer with ⟨hok, -, -⟩ | ⟨⟨cause, hcause⟩, -⟩
    · cases hok
    · cases hcause
  | @refused p q cause pending holding answer =>
    have hanswer := hinsert q hm holding
    rw [answer] at hanswer
    rcases hanswer with ⟨hok, -, -⟩ | ⟨-, hsame⟩
    · cases hok
    · refine hquiet hrouting' hsame (fun q' hq => ?_) rfl rfl
      cases hq
  | forwarded writing =>
    rw [show Trace.handled [.forwarded _] = [] from rfl, List.append_nil]
    exact (ih hrouting').forward writing rfl rfl
  | @unwritten q writing =>
    show Tracked _ ((r.trace ps).forwarded ++ []) answered ((r.trace ps).handled ++ []).length
    rw [List.append_nil, List.append_nil]
    exact (ih hrouting').giveUp writing rfl rfl

/-- The table names the requester of the very request that the next response answers. -/
theorem owner_of_next {ms : List Move} (hall : ms <+: all) {f : Frame} {input : FrameReader}
    (hrouting : (r.final ms).routing = true)
    (hnext : (r.final ms).device.input.next = (.item (.frame f), input)) :
    ∃ q, (r.trace ms).forwarded[answered (r.trace ms).handled.length]? = some q ∧
      q.transactionId = f.transactionId ∧
      Unanswered answered (r.trace ms).handled.length (answered (r.trace ms).handled.length) ∧
      ((r.final ms).pending.find? f.transactionId).map (·.value) = some q.requester := by
  obtain ⟨q, hq, hid, hun⟩ := next_answers hr hdevice hall hrouting hnext
  have hname := (tracked hr hpolicy honly hyoung hdevice ms hall hrouting).named _ q hq hun
  unfold Names at hname
  rw [hid] at hname
  exact ⟨q, hq, hid, hun, hname⟩

/-- The responses handed over answer different requests, each of them one of its client's. -/
theorem routed_once (ms : List Move) (hall : ms <+: all) :
    ∃ given : List Nat, HandedOver answered (r.trace ms) given := by
  refine prefix_induction (r := r) (P := fun _ _ es => ∃ given, HandedOver answered es given)
    ⟨[], List.nodup_nil, by simp, .nil⟩ ?_ ms hall
  rintro ps m r' (es : Trace) hm ⟨given, hgiven⟩ hs
  have hps : ps <+: all := (List.prefix_append ps [m]).trans hm
  have hsame (hrouted : es.routed = []) : ∃ given, HandedOver answered (r.trace ps ++ es) given :=
    ⟨given, hgiven.append hrouted⟩
  cases hs with
  | aside _ _ _ _ _ _ quiet => exact hsame (Trace.routed_aside quiet)
  | lost _ told => exact hsame ((r.final ps).trace_loseDevice told).2.1
  | @routed f input e clients routing next verdict =>
    obtain ⟨q, hq, hid, hun, howner⟩ :=
      owner_of_next hr hpolicy honly hyoung hdevice hps routing next
    rw [PendingTable.take_fst, howner] at verdict
    rcases verdict with rfl | rfl | rfl
    · exact ⟨_, hgiven.snoc hq hid hun rfl rfl⟩
    · exact hsame rfl
    · exact hsame rfl
  | _ => exact hsame rfl

/-- Under the policy that rejects duplicates every response goes to the client whose request it
answers, and once at most. Response `k` of the device answers request `answered k` of those that
it has got. If a turn hands a response over, this is the next response, and its recipient is the
requester of the request it answers; and the turn does hand it over if the router still reads and
the mailbox of that client is open and not full. So the responses handed over belong to different
requests, and nothing else ever comes into a mailbox. -/
theorem responses_reach_their_requesters :
    (∀ ps m who f, ps ++ [m] <+: all → (who, f) ∈ Trace.routed ((r.final ps).move m).2 →
      (responses all)[(r.trace ps).handled.length]? = some f ∧
        ∃ q, (r.trace ps).forwarded[answered (r.trace ps).handled.length]? = some q ∧
          q.transactionId = f.transactionId ∧ q.requester = who) ∧
    (∀ ps f input, ps ++ [.turn .route] <+: all → (r.final ps).routing = true →
      (r.final ps).device.input.next = (.item (.frame f), input) →
      ∃ q, (r.trace ps).forwarded[answered (r.trace ps).handled.length]? = some q ∧
        q.transactionId = f.transactionId ∧
        ((r.final ps).Accepts q.requester.client →
          (q.requester, f) ∈ Trace.routed ((r.final ps).move (.turn .route)).2)) ∧
    (∃ given : List Nat, given.Nodup ∧
      List.Forall₂ (fun i x => ∃ q, (r.trace all).forwarded[i]? = some q ∧
        q.transactionId = x.2.transactionId ∧ q.requester = x.1) given (r.trace all).routed) ∧
    (∀ ps m c, ps ++ [m] <+: all → ∃ left, left <:+ (r.final ps).inbox c ∧
      (r.final (ps ++ [m])).inbox c = left ++ Trace.inboxed ((r.final ps).move m).2 c) := by
  refine ⟨fun ps m who f hm hrouted => ?_, fun ps f input hm hrouting hnext => ?_, ?_,
    fun ps m c _ => ?_⟩
  · have hps : ps <+: all := (List.prefix_append ps [m]).trans hm
    have hroute : m = .turn .route := by
      by_contra hne
      rw [routed_of_ne_route (step_move _ m) hne] at hrouted
      cases hrouted
    subst hroute
    obtain ⟨hrouting, ⟨input, hnext⟩, ⟨e, hfind, rfl⟩, -⟩ := routed_iff.mp hrouted
    obtain ⟨q, hq, hid, -, howner⟩ :=
      owner_of_next hr hpolicy honly hyoung hdevice hps hrouting hnext
    rw [hfind] at howner
    obtain ⟨rest, hrest⟩ := responses_mono hps
    refine ⟨?_, q, hq, hid, (Option.some.inj howner).symm⟩
    have hresponse := responses_of_next hr hrouting hnext
    rw [← hrest, List.getElem?_append_left (List.getElem?_eq_some_iff.mp hresponse).1, hresponse]
  · have hps : ps <+: all := (List.prefix_append ps _).trans hm
    obtain ⟨q, hq, hid, -, howner⟩ :=
      owner_of_next hr hpolicy honly hyoung hdevice hps hrouting hnext
    refine ⟨q, hq, hid, fun haccepts => ?_⟩
    obtain ⟨e, hfind, hwho⟩ := Option.map_eq_some_iff.mp howner
    exact routed_iff.mpr ⟨hrouting, ⟨input, hnext⟩, ⟨e, hfind, hwho⟩, haccepts⟩
  · obtain ⟨given, hnodup, -, hgiven⟩ :=
      routed_once hr hpolicy honly hyoung hdevice all (List.prefix_refl all)
    exact ⟨given, hnodup, hgiven⟩
  · rw [final_append]
    exact inbox_move (r.final ps) m c

end Run

/-- Two clients' requests are answered in the opposite order. -/
def answeredBackwards : List Move :=
  [ .input (.serve ⟨.v4 10 0 0 9, 40000⟩), .input (.serve ⟨.v4 10 0 0 8, 40001⟩),
    .turn (.begin 0), .turn (.begin 1),
    .input (.clientSends 0 [0, 7, 0, 0, 0, 2, 1, 3]), .turn (.intake 0),
    .input (.clientSends 1 [0, 8, 0, 0, 0, 2, 1, 3]), .turn (.intake 1),
    .input .startDispatcher,
    .turn .take, .turn .record, .turn .write, .turn .take, .turn .record, .turn .write,
    .input (.deviceSends [0, 8, 0, 0, 0, 2, 1, 4, 0, 7, 0, 0, 0, 2, 1, 4]),
    .turn .route, .turn .route ]

/-- Each of the two clients is given one response, to its own request. -/
theorem responses_of_answeredBackwards :
    (ofSettings {}).Fresh ∧ (ofSettings {}).pending.policy = .reject ∧
      OnlyDispatcherRecords answeredBackwards ∧
      (ofSettings {}).YoungAtInserts answeredBackwards ∧
      (ofSettings {}).AnswersOnce answeredBackwards (1 - ·) ∧
      ((ofSettings {}).trace answeredBackwards).routed.map (·.1.client) = [1, 0] ∧
      ∃ given : List Nat, given.Nodup ∧
        List.Forall₂ (fun i x =>
            ∃ q, ((ofSettings {}).trace answeredBackwards).forwarded[i]? = some q ∧
              q.transactionId = x.2.transactionId ∧ q.requester = x.1) given
          ((ofSettings {}).trace answeredBackwards).routed := by
  have hr : (ofSettings {}).Fresh := fresh_ofSettings {}
  have honly : OnlyDispatcherRecords answeredBackwards := by decide
  have hyoung : (ofSettings {}).YoungAtInserts answeredBackwards := by decide +kernel
  have hdevice : (ofSettings {}).AnswersOnce answeredBackwards (1 - ·) := by decide +kernel
  refine ⟨hr, rfl, honly, hyoung, hdevice, by decide +kernel, ?_⟩
  exact (responses_reach_their_requesters hr rfl honly hyoung hdevice).2.2.1

end Relay

end ModbusRelay
