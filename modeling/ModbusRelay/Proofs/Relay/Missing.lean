import ModbusRelay.Proofs.Relay.Alongside

/-!
Two relays of which one has got a request that the other never gets.

While the request is in the queue the second relay makes the same moves, and the two agree
(`Waits`). While the dispatcher holds the request it does nothing else, and the second relay lets
its dispatcher pause (`Holds`). When the request is gone without having left anything behind, the
two go on alike (`Gone`).

Backwards, `exists_taking` and `exists_origin` find in a run the moves by which a request has come
into the hands of the dispatcher.
-/

namespace ModbusRelay

/-- A move that does nothing. -/
def Move.idle : Move := .input (.wait 0)

/-- The dispatcher does nothing at its turns. -/
def Move.pausing : Move → Move
  | .turn .take | .turn .record | .turn .write | .turn .stopDispatcher => .idle
  | m => m

namespace Relay

@[simp]
theorem move_idle (r : Relay) : r.move .idle = (r, []) := rfl

/-! ## Relays that differ in the queue -/

/-- The relays differ at most in the queue. -/
structure UpToQueue (r₁ r₂ : Relay) : Prop where
  same : r₂ = r₁.withWork r₂.queue r₁.dispatcher
  awake₁ : r₁.queue.Awake
  awake₂ : r₂.queue.Awake

namespace UpToQueue

variable {r₁ r₂ : Relay}

theorem agrees (h : UpToQueue r₁ r₂) : Agrees r₁ r₂ := by
  rw [h.same]
  exact .withWork r₁ _ _

theorem dispatcher (h : UpToQueue r₁ r₂) : r₂.dispatcher = r₁.dispatcher :=
  congrArg (·.dispatcher) h.same

/-- Nobody but the dispatcher sees the difference, and what is queued is queued in both. -/
theorem move (h : UpToQueue r₁ r₂) {m : Move} (htake : m ≠ .turn .take)
    (hdrain : m ≠ .input .drain) :
    UpToQueue (r₁.move m).1 (r₂.move m).1 ∧ (r₂.move m).2 = (r₁.move m).2 ∧
      ∀ p,
        (r₁.move m).1.queue.lanes.lane p =
          r₁.queue.lanes.lane p ++ ofClass p (Trace.queued (r₁.move m).2) ∧
        (r₂.move m).1.queue.lanes.lane p =
          r₂.queue.lanes.lane p ++ ofClass p (Trace.queued (r₁.move m).2) := by
  obtain ⟨w, hmove, hlane, hawake⟩ := r₁.move_of_queue h.awake₂ htake hdrain
  rw [← h.same] at hmove
  rw [hmove]
  refine ⟨⟨rfl, awake_move h.awake₁ m, hawake⟩, rfl, fun p => ⟨?_, hlane p⟩⟩
  exact lane_move h.awake₁ htake hdrain p

/-- The dispatcher takes the same request from both queues. -/
theorem take_of_pop (h : UpToQueue r₁ r₂) (hidle : r₁.dispatcher = .idle) {p : Priority}
    {q : Request} {l₁ l₂ : Lanes Request} (hpop₁ : r₁.queue.lanes.pop? = some ((p, q), l₁))
    (hpop₂ : r₂.queue.lanes.pop? = some ((p, q), l₂)) :
    UpToQueue (r₁.move (.turn .take)).1 (r₂.move (.turn .take)).1 ∧
      (r₂.move (.turn .take)).2 = (r₁.move (.turn .take)).2 ∧
      (r₁.move (.turn .take)).1.queue.lanes = l₁ ∧ (r₂.move (.turn .take)).1.queue.lanes = l₂ := by
  rcases move_take h.awake₁ with ⟨p₁, q₁, l, w₁, -, hpop, hmove₁, hl₁, hw₁⟩ | ⟨hnone, -⟩
  · rw [hpop₁] at hpop
    cases hpop
    rcases move_take h.awake₂ with ⟨p₂, q₂, l, w₂, -, hpop, hmove₂, hl₂, hw₂⟩ | ⟨hnone, -⟩
    · rw [hpop₂] at hpop
      cases hpop
      rw [hmove₁, hmove₂]
      refine ⟨⟨?_, hw₁, hw₂⟩, rfl, hl₁, hl₂⟩
      rw [h.same]
      rfl
    · rw [hnone (h.dispatcher.trans hidle)] at hpop₂
      cases hpop₂
  · rw [hnone hidle] at hpop₁
    cases hpop₁

/-- The dispatcher takes nothing from either queue. -/
theorem take_of_none (h : UpToQueue r₁ r₂)
    (hnone : r₁.dispatcher = .idle → r₁.queue.lanes.pop? = none ∧ r₂.queue.lanes.pop? = none) :
    UpToQueue (r₁.move (.turn .take)).1 (r₂.move (.turn .take)).1 ∧
      (r₂.move (.turn .take)).2 = (r₁.move (.turn .take)).2 ∧
      (r₁.move (.turn .take)).1.queue.lanes = r₁.queue.lanes ∧
      (r₂.move (.turn .take)).1.queue.lanes = r₂.queue.lanes := by
  rcases move_take h.awake₁ with ⟨p₁, q₁, l, w₁, hidle, hpop, -⟩ | ⟨-, w₁, hmove₁, hl₁, hw₁⟩
  · rw [(hnone hidle).1] at hpop
    cases hpop
  · rcases move_take h.awake₂ with ⟨p₂, q₂, l, w₂, hidle, hpop, -⟩ | ⟨-, w₂, hmove₂, hl₂, hw₂⟩
    · rw [(hnone (h.dispatcher.symm.trans hidle)).2] at hpop
      cases hpop
    · rw [hmove₁, hmove₂]
      refine ⟨⟨?_, hw₁, hw₂⟩, rfl, hl₁, hl₂⟩
      rw [h.same]
      rfl

theorem drain (h : UpToQueue r₁ r₂) :
    UpToQueue (r₁.move (.input .drain)).1 (r₂.move (.input .drain)).1 := by
  refine ⟨?_, awake_move h.awake₁ _, awake_move h.awake₂ _⟩
  rw [h.same]
  rfl

end UpToQueue

/-! ## The request waits -/

/-- Between the requests `A` and `B` of class `p` there is one that the second relay has not got. -/
structure Waits (p : Priority) (q : Request) (A B : List Request) (r₁ r₂ : Relay) : Prop
    extends UpToQueue r₁ r₂ where
  lane₁ : r₁.queue.lanes.lane p = A ++ q :: B
  lane₂ : r₂.queue.lanes.lane p = A ++ B
  others : ∀ p', p' ≠ p → r₂.queue.lanes.lane p' = r₁.queue.lanes.lane p'

namespace Waits

variable {p : Priority} {q : Request} {A B : List Request} {r₁ r₂ : Relay}

theorem move (h : Waits p q A B r₁ r₂) {m : Move} (htake : m ≠ .turn .take)
    (hdrain : m ≠ .input .drain) :
    Waits p q A (B ++ ofClass p (Trace.queued (r₁.move m).2)) (r₁.move m).1 (r₂.move m).1 ∧
      (r₂.move m).2 = (r₁.move m).2 := by
  obtain ⟨hmove, hevents, hlane⟩ := h.toUpToQueue.move htake hdrain
  refine ⟨⟨hmove, ?_, ?_, fun p' hp' => ?_⟩, hevents⟩
  · rw [(hlane p).1, h.lane₁, List.append_assoc, List.cons_append]
  · rw [(hlane p).2, h.lane₂, List.append_assoc]
  · rw [(hlane p').1, (hlane p').2, h.others p' hp']

/-- The dispatcher takes another request. -/
theorem take_of_pop {q' : Request} {p' : Priority} {l : Lanes Request}
    (h : Waits p q (if p' = p then q' :: A else A) B r₁ r₂) (hidle : r₁.dispatcher = .idle)
    (hpop : r₁.queue.lanes.pop? = some ((p', q'), l)) :
    Waits p q A B (r₁.move (.turn .take)).1 (r₂.move (.turn .take)).1 ∧
      (r₂.move (.turn .take)).2 = (r₁.move (.turn .take)).2 := by
  have hlane₁ := Lanes.lane_of_pop? hpop
  have hhigh : p' = .normal → r₂.queue.lanes.high = [] := by
    intro hnormal
    subst hnormal
    have hempty : r₁.queue.lanes.lane .high = [] := Lanes.high_of_pop?_normal hpop
    cases p with
    | normal => exact (h.others .high (by simp)).trans hempty
    | high =>
      rw [h.lane₁] at hempty
      simp at hempty
  -- What the second relay finds behind the request that is taken.
  obtain ⟨rest, hrest, hrest'⟩ : ∃ rest, r₂.queue.lanes.lane p' = q' :: rest ∧
      rest = if p' = p then A ++ B else l.lane p' := by
    by_cases hp : p' = p
    · subst hp
      exact ⟨A ++ B, by rw [h.lane₂, if_pos rfl, List.cons_append], by rw [if_pos rfl]⟩
    · exact ⟨l.lane p', by rw [h.others p' hp, hlane₁ p', if_pos rfl], by rw [if_neg hp]⟩
  obtain ⟨l', hpop', hlane₂⟩ := Lanes.pop?_of_lane hpop hrest hhigh
  obtain ⟨hmove, hevents, hl, hl'⟩ := h.toUpToQueue.take_of_pop hidle hpop hpop'
  refine ⟨⟨hmove, ?_, ?_, fun p₀ hp₀ => ?_⟩, hevents⟩
  · rw [hl]
    have hlane := hlane₁ p
    rw [h.lane₁] at hlane
    by_cases hp : p' = p
    · rw [if_pos hp, if_pos hp] at hlane
      exact (List.cons.inj hlane).2.symm
    · rw [if_neg hp, if_neg hp] at hlane
      exact hlane.symm
  · rw [hl', hlane₂]
    by_cases hp : p' = p
    · rw [if_pos hp, hrest', if_pos hp]
    · rw [if_neg hp, h.lane₂, if_neg hp]
  · rw [hl, hl', hlane₂, hrest', h.others p₀ hp₀, hlane₁ p₀]
    by_cases hp : p' = p₀
    · subst hp
      rw [if_pos rfl, if_neg hp₀]
    · rw [if_neg hp, if_neg hp]

/-- The dispatcher does not take anything at the moment. -/
theorem take_of_busy (h : Waits p q A B r₁ r₂) (hbusy : r₁.dispatcher ≠ .idle) :
    Waits p q A B (r₁.move (.turn .take)).1 (r₂.move (.turn .take)).1 ∧
      (r₂.move (.turn .take)).2 = (r₁.move (.turn .take)).2 := by
  obtain ⟨hmove, hevents, hl₁, hl₂⟩ := h.toUpToQueue.take_of_none fun hidle => absurd hidle hbusy
  refine ⟨⟨hmove, ?_, ?_, fun p' hp' => ?_⟩, hevents⟩
  · rw [hl₁, h.lane₁]
  · rw [hl₂, h.lane₂]
  · rw [hl₁, hl₂, h.others p' hp']

end Waits

/-! ## Where a waiting request comes from -/

theorem queued_move (r : Relay) (m : Move) :
    Trace.queued (r.move m).2 = [] ∨ ∃ x, Trace.queued (r.move m).2 = [x] := by
  have hs := step_move r m
  generalize (r.move m).1 = r' at hs
  generalize (r.move m).2 = es at hs
  cases hs with
  | aside _ _ _ _ _ _ quiet => exact .inl (Trace.queued_aside quiet)
  | pushed | received => exact .inr ⟨_, rfl⟩
  | routed _ _ _ verdict => exact .inl (verdict.trace _).2.1
  | lost _ told => exact .inl (r.trace_loseDevice told).2.2.1
  | _ => exact .inl rfl

/-- How a request comes to wait: some move has put it on the queue, and the same relay without it
could have gone on the same way. -/
def Origin (r : Relay) (ps : List Move) (p : Priority) (q : Request) (A B : List Request)
    (before : List Move) (entry : Move) (between : List Move) : Prop :=
  let s₁ := r.final (before ++ [entry])
  let s₂ := s₁.withWork (r.final before).queue s₁.dispatcher
  ps = before ++ entry :: between ∧ Trace.queued ((r.final before).move entry).2 = [(p, q)] ∧
    Alongside s₁ between s₂ between [] ∧ Waits p q A B (r.final ps) (s₂.final between)

section Origin

variable {r : Relay} {ps : List Move} {p : Priority} {q : Request} {A B A' B' : List Request}
  {before between : List Move} {entry m : Move}

/-- The last move has put the request on the queue. -/
theorem origin_of_queued (hr : r.Fresh)
    (hqueued : Trace.queued ((r.final ps).move m).2 = [(p, q)]) (htake : m ≠ .turn .take)
    (hdrain : m ≠ .input .drain) :
    Origin r (ps ++ [m]) p q ((r.final ps).queue.lanes.lane p) [] ps m [] := by
  have hawake := awake_final hr ps
  have hlane := lane_move hawake htake hdrain
  rw [hqueued] at hlane
  refine ⟨rfl, hqueued, .nil (.withWork _ _ _), ⟨rfl, ?_, hawake⟩, ?_, ?_, fun p' hp' => ?_⟩
  · exact awake_final hr (ps ++ [m])
  · rw [final_append]
    exact (hlane p).trans (by rw [ofClass_singleton, if_pos rfl])
  · exact (List.append_nil _).symm
  · rw [final_append]
    refine (Eq.trans (hlane p') ?_).symm
    rw [ofClass_singleton, if_neg (Ne.symm hp'), List.append_nil]
    rfl

/-- Another move that the two relays make alike. -/
theorem Origin.snoc (h : Origin r ps p q A B before entry between)
    (hmove : ∀ r₂, Waits p q A B (r.final ps) r₂ →
      Waits p q A' B' ((r.final ps).move m).1 (r₂.move m).1 ∧
        (r₂.move m).2 = ((r.final ps).move m).2) :
    Origin r (ps ++ [m]) p q A' B' before entry (between ++ [m]) := by
  obtain ⟨rfl, hqueued, halong, hwaits⟩ := h
  obtain ⟨hwaits', hevents⟩ := hmove _ hwaits
  have hfinal : r.final (before ++ entry :: between) =
      (r.final (before ++ [entry])).final between := by simp
  refine ⟨by simp, hqueued, halong.append (.same ?_ ?_ (.nil ?_)), ?_⟩
  · rw [← hfinal]
    exact hwaits.agrees
  · rw [← hfinal]
    exact hevents
  · rw [← hfinal]
    exact hwaits'.agrees
  · rw [final_append r (before ++ entry :: between) [m], final_append _ between [m]]
    exact hwaits'

/-- After a turn at the queue: the request has waited before, possibly behind the one that is
taken. -/
theorem exists_origin_of_take (hr : r.Fresh)
    (ih : ∀ A, (r.final ps).queue.lanes.lane p = A ++ q :: B →
      ∃ before entry between, Origin r ps p q A B before entry between)
    (hlane : ((r.final ps).move (.turn .take)).1.queue.lanes.lane p = A ++ q :: B) :
    ∃ before entry between, Origin r (ps ++ [.turn .take]) p q A B before entry between := by
  rcases move_take (awake_final hr ps) with
    ⟨p', q', l, w, hidle, hpop, hmove, rfl, -⟩ | ⟨hnone, w, hmove, hlanes, -⟩
  · rw [hmove] at hlane
    have hbefore := Lanes.lane_of_pop? hpop p
    obtain ⟨before, entry, between, h⟩ := ih (if p' = p then q' :: A else A) (by
      rw [hbefore]
      split
      · exact congrArg (q' :: ·) hlane
      · exact hlane)
    exact ⟨before, entry, between ++ [.turn .take],
      h.snoc fun r₂ hwaits => hwaits.take_of_pop hidle hpop⟩
  · rw [hmove, withWork_queue, hlanes] at hlane
    obtain ⟨before, entry, between, h⟩ := ih A hlane
    refine ⟨before, entry, between ++ [.turn .take], h.snoc fun r₂ hwaits => ?_⟩
    refine hwaits.take_of_busy fun hidle => ?_
    rw [Lanes.lane_of_pop?_none (hnone hidle)] at hlane
    simp at hlane

/-- After a move that can only put something on the queue: the request has waited before, or it is
what has been put there. -/
theorem exists_origin_of_grown (hr : r.Fresh) (htake : m ≠ .turn .take)
    (hdrain : m ≠ .input .drain)
    (ih : ∀ B, (r.final ps).queue.lanes.lane p = A ++ q :: B →
      ∃ before entry between, Origin r ps p q A B before entry between)
    (hlane : ((r.final ps).move m).1.queue.lanes.lane p = A ++ q :: B) :
    ∃ before entry between, Origin r (ps ++ [m]) p q A B before entry between := by
  rw [lane_move (awake_final hr ps) htake hdrain p] at hlane
  have hkept (hlane : (r.final ps).queue.lanes.lane p = A ++ q :: B)
      (hnew : ofClass p (Trace.queued ((r.final ps).move m).2) = []) :
      ∃ before entry between, Origin r (ps ++ [m]) p q A B before entry between := by
    obtain ⟨before, entry, between, h⟩ := ih B hlane
    refine ⟨before, entry, between ++ [m], h.snoc fun r₂ hwaits => ?_⟩
    have hmove := hwaits.move htake hdrain
    rwa [hnew, List.append_nil] at hmove
  rcases queued_move (r.final ps) m with hqueued | ⟨⟨p', q'⟩, hqueued⟩
  · rw [hqueued, ofClass_nil, List.append_nil] at hlane
    exact hkept hlane (by rw [hqueued, ofClass_nil])
  · by_cases hp : p' = p
    · subst hp
      rw [hqueued, ofClass_singleton, if_pos rfl] at hlane
      rcases List.eq_nil_or_concat B with rfl | ⟨B₀, b, rfl⟩
      · obtain ⟨rfl, hq⟩ := List.append_inj' hlane rfl
        cases hq
        exact ⟨ps, m, [], origin_of_queued hr hqueued htake hdrain⟩
      · rw [List.concat_eq_append, ← List.cons_append, ← List.append_assoc] at hlane
        obtain ⟨hlane', hb⟩ := List.append_inj' hlane rfl
        cases hb
        obtain ⟨before, entry, between, h⟩ := ih B₀ hlane'
        refine ⟨before, entry, between ++ [m], h.snoc fun r₂ hwaits => ?_⟩
        have hmove := hwaits.move htake hdrain
        rw [hqueued, ofClass_singleton, if_pos rfl] at hmove
        rwa [List.concat_eq_append]
    · rw [hqueued, ofClass_singleton, if_neg hp, List.append_nil] at hlane
      exact hkept hlane (by rw [hqueued, ofClass_singleton, if_neg hp])

/-- A request that waits has been put on the queue by some move, and without it the relay would have
gone on the same way. -/
theorem exists_origin (hr : r.Fresh) (ps : List Move) {p : Priority} {q : Request}
    {A B : List Request} (hlane : (r.final ps).queue.lanes.lane p = A ++ q :: B) :
    ∃ before entry between, Origin r ps p q A B before entry between := by
  induction ps using List.reverseRecOn generalizing A B with
  | nil =>
    rw [final_nil, hr.queue, Lanes.lane_empty] at hlane
    simp at hlane
  | append_singleton ps m ih =>
    rw [final_append, final_cons, final_nil] at hlane
    by_cases htake : m = .turn .take
    · subst htake
      exact exists_origin_of_take hr (fun _ => ih) hlane
    · by_cases hdrain : m = .input .drain
      · subst hdrain
        have hempty : A ++ q :: B = [] := hlane.symm.trans (Lanes.lane_empty p)
        simp at hempty
      · exact exists_origin_of_grown hr htake hdrain (fun _ => ih) hlane

end Origin

/-! ## The dispatcher holds the request -/

/-- The dispatcher of the first relay holds a request that the second relay has not got. -/
structure Holds (p : Priority) (q : Request) (r₁ r₂ : Relay) : Prop where
  holding : r₁.dispatcher = .holding p q
  same : r₂ = r₁.withWork r₂.queue .idle
  awake₁ : r₁.queue.Awake
  awake₂ : r₂.queue.Awake
  lanes : r₂.queue.lanes = r₁.queue.lanes

section Holds

variable {r r₁ r₂ : Relay} {p : Priority} {q : Request} {m : Move}

theorem Holds.agrees (h : Holds p q r₁ r₂) : Agrees r₁ r₂ := by
  rw [h.same]
  exact .withWork r₁ _ _

/-- A dispatcher that holds a request can only record it. -/
theorem turn_of_holding (hr : r.dispatcher = .holding p q) {t : Turn}
    (ht : (Move.turn t).looksAtWork = true) (hrecord : t ≠ .record) : r.turn? t = none := by
  cases t with
  | record => exact absurd rfl hrecord
  | take => simp [turn?, take?, hr]
  | write => simp [turn?, write?, hr]
  | stopDispatcher => simp [turn?, stopDispatcher?, hr]
  | _ => cases ht

/-- Until the dispatcher records the request, the two relays go on alike. -/
theorem Holds.move (h : Holds p q r₁ r₂) (hm : m ≠ .turn .record) :
    Holds p q (r₁.move m).1 (r₂.move m.pausing).1 ∧ (r₂.move m.pausing).2 = (r₁.move m).2 := by
  cases hblind : m.looksAtWork with
  | false =>
    have hpausing : m.pausing = m := by
      cases m with
      | input i => rfl
      | turn t => cases t <;> first | rfl | cases hblind
    have hmove₁ := r₁.move_withWork r₁.queue r₁.dispatcher m hblind
    have hmove₂ := r₁.move_withWork r₂.queue .idle m hblind
    rw [withWork_self] at hmove₁
    rw [← h.same] at hmove₂
    rw [hpausing, hmove₂]
    have hqueue : (r₁.move m).1.queue = r₁.queue.pushAll (Trace.queued (r₁.move m).2) :=
      congrArg (·.1.queue) hmove₁
    refine ⟨⟨?_, rfl, ?_, h.awake₂.pushAll _, ?_⟩, rfl⟩
    · rw [congrArg (·.1.dispatcher) hmove₁]
      exact h.holding
    · rw [hqueue]
      exact h.awake₁.pushAll _
    · refine Lanes.ext_lane fun p => ?_
      rw [hqueue]
      refine (r₂.queue.lane_pushAll _ p).trans ?_
      rw [h.lanes, ← r₁.queue.lane_pushAll]
  | true =>
    cases m with
    | input i =>
      cases i with
      | drain =>
        refine ⟨⟨h.holding, ?_, awake_move h.awake₁ _, awake_move h.awake₂ _, rfl⟩, rfl⟩
        show { r₂ with queue := r₂.queue.drain.2 } = _
        rw [h.same]
        rfl
      | startDispatcher =>
        have hmove₁ : r₁.move (.input .startDispatcher) = (r₁, []) := by
          simp [Relay.move, apply, h.holding]
        have hmove₂ : r₂.move (.input .startDispatcher) = (r₂, []) := by
          have hidle : r₂.dispatcher = .idle := congrArg (·.dispatcher) h.same
          simp [Relay.move, apply, hidle]
        rw [show (Move.input .startDispatcher).pausing = .input .startDispatcher from rfl, hmove₁,
          hmove₂]
        exact ⟨h, rfl⟩
      | _ => cases hblind
    | turn t =>
      have hpausing : (Move.turn t).pausing = .idle := by
        cases t <;> first | rfl | cases hblind
      rw [hpausing, move_idle,
        move_of_turn?_none (turn_of_holding h.holding hblind fun ht => hm (by rw [ht]))]
      exact ⟨h, rfl⟩

/-- After recording, the dispatcher holds nothing. -/
theorem dispatcher_record (r : Relay) (p : Priority) (q : Request) :
    (r.move (.turn .record)).1.dispatcher ≠ .holding p q := by
  simp only [Relay.move, turn?, record?]
  split
  · rw [Option.getD_some]
    split <;> exact fun h => by cases h
  · next hd => exact hd p q

/-- How a dispatcher comes to hold a request. -/
theorem holding_move (h : (r.move m).1.dispatcher = .holding p q) :
    m ≠ .turn .record ∧ (r.dispatcher = .holding p q ∨
      m = .turn .take ∧ r.dispatcher = .idle ∧
        ∃ l, r.queue.lanes.pop? = some ((p, q), l) ∧ (r.move m).1.queue.lanes = l) := by
  have hm : m ≠ .turn .record := by
    rintro rfl
    exact dispatcher_record r p q h
  refine ⟨hm, ?_⟩
  have hs := step_move r m
  generalize (r.move m).1 = r' at h hs
  generalize (r.move m).2 = es at hs
  cases hs with
  | started | recorded | displaced | refused | forwarded | unwritten | dispatcherUnused
  | dispatcherStopped => cases h
  | taken idle pop =>
    cases h
    exact .inr ⟨rfl, idle, _, pop, rfl⟩
  | deviceSent | deviceEnded =>
    rw [withDeviceInput_dispatcher] at h
    exact .inl h
  | _ => exact .inl h

/-- How the dispatcher has come to hold a request: it has taken it off the queue, and a relay that
never got the request could have gone on the same way from there. -/
structure Taking (r : Relay) (ps : List Move) (p : Priority) (q : Request)
    (taking held : List Move) : Prop where
  split : ps = taking ++ .turn .take :: held
  idle : (r.final taking).dispatcher = .idle
  pop : (r.final taking).queue.lanes.pop? =
    some ((p, q), (r.final (taking ++ [.turn .take])).queue.lanes)
  alongside : ∀ r₂, Holds p q (r.final (taking ++ [.turn .take])) r₂ →
    Alongside (r.final (taking ++ [.turn .take])) held r₂ (held.map Move.pausing) [] ∧
      Holds p q (r.final ps) (r₂.final (held.map Move.pausing))

theorem exists_taking (hr : r.Fresh) (ps : List Move)
    (hholding : (r.final ps).dispatcher = .holding p q) :
    ∃ taking held, Taking r ps p q taking held := by
  induction ps using List.reverseRecOn with
  | nil =>
    rcases hr.dispatcher with h | h <;> rw [final_nil, h] at hholding <;> cases hholding
  | append_singleton ps m ih =>
    rw [final_append, final_cons, final_nil] at hholding
    obtain ⟨hm, hbefore | ⟨rfl, hidle, l, hpop, hl⟩⟩ := holding_move hholding
    · obtain ⟨taking, held, rfl, hidle, hpop, halong⟩ := ih hbefore
      refine ⟨taking, held ++ [m], by simp, hidle, hpop, fun r₂ hholds => ?_⟩
      obtain ⟨halong, hholds⟩ := halong r₂ hholds
      obtain ⟨hholds', hevents⟩ := hholds.move hm
      have hfinal : r.final (taking ++ .turn .take :: held) =
          (r.final (taking ++ [.turn .take])).final held := by simp
      rw [hfinal] at hholds hholds' hevents
      rw [List.map_append, List.map_singleton, final_append r (taking ++ .turn .take :: held) [m],
        hfinal, final_append r₂]
      exact ⟨halong.append (.same hholds.agrees hevents (.nil hholds'.agrees)), hholds'⟩
    · refine ⟨ps, [], rfl, hidle, ?_, fun r₂ hholds => ⟨.nil hholds.agrees, hholds⟩⟩
      rw [hpop, final_append, final_cons, final_nil, hl]

end Holds

/-! ## The request is gone -/

/-- The two relays have the same to do. -/
structure Gone (r₁ r₂ : Relay) : Prop extends UpToQueue r₁ r₂ where
  lanes : r₂.queue.lanes = r₁.queue.lanes

section Gone

variable {r₁ r₂ : Relay}

theorem Gone.move (h : Gone r₁ r₂) (m : Move) :
    Gone (r₁.move m).1 (r₂.move m).1 ∧ (r₂.move m).2 = (r₁.move m).2 := by
  by_cases htake : m = .turn .take
  · subst htake
    by_cases hidle : r₁.dispatcher = .idle
    · cases hpop : r₁.queue.lanes.pop? with
      | some next =>
        obtain ⟨⟨p, q⟩, l⟩ := next
        obtain ⟨hmove, hevents, hl₁, hl₂⟩ :=
          h.toUpToQueue.take_of_pop hidle hpop (by rw [h.lanes, hpop])
        exact ⟨⟨hmove, by rw [hl₁, hl₂]⟩, hevents⟩
      | none =>
        obtain ⟨hmove, hevents, hl₁, hl₂⟩ :=
          h.toUpToQueue.take_of_none fun _ => ⟨hpop, by rw [h.lanes, hpop]⟩
        exact ⟨⟨hmove, by rw [hl₁, hl₂, h.lanes]⟩, hevents⟩
    · obtain ⟨hmove, hevents, hl₁, hl₂⟩ :=
        h.toUpToQueue.take_of_none fun h => absurd h hidle
      exact ⟨⟨hmove, by rw [hl₁, hl₂, h.lanes]⟩, hevents⟩
  · by_cases hdrain : m = .input .drain
    · subst hdrain
      exact ⟨⟨h.toUpToQueue.drain, rfl⟩, rfl⟩
    · obtain ⟨hmove, hevents, hlane⟩ := h.toUpToQueue.move htake hdrain
      refine ⟨⟨hmove, Lanes.ext_lane fun p => ?_⟩, hevents⟩
      rw [(hlane p).1, (hlane p).2, h.lanes]

/-- A refusal leaves nothing behind. -/
theorem Holds.gone {p : Priority} {q : Request} (h : Holds p q r₁ r₂) : Gone (r₁.withWork r₁.queue .idle) r₂ :=
  ⟨⟨h.same, h.awake₁, h.awake₂⟩, h.lanes⟩

theorem Gone.alongside (h : Gone r₁ r₂) (ms : List Move) : Alongside r₁ ms r₂ ms [] := by
  induction ms generalizing r₁ r₂ with
  | nil => exact .nil h.agrees
  | cons m ms ih =>
    obtain ⟨hmove, hevents⟩ := h.move m
    exact .same h.agrees hevents (ih hmove)

end Gone

end Relay

end ModbusRelay
