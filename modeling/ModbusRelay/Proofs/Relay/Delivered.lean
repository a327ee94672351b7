import ModbusRelay.Proofs.Relay.Intake

/-!
What a client gets.

A mailbox is filled by the router and emptied by the session, which takes one response in hand and
writes it, and both keep the order. So what has gone into the mailbox is at any time what has been
written to the client and then what is `undelivered`, in hand or in the mailbox, until the session
ends and that is lost. `conserves` says it of one move: what is undelivered before it and what comes
in with it is what is written and what is undelivered after it. From it `exists_written` follows
what is written through a run. That a mailbox holds no more than it may is kept by every move too
(`Roomy.move`), and when no worker can take a turn nothing is undelivered (`undelivered_of_quiet`).
-/

namespace ModbusRelay

/-- Does somebody take responses out of the mailbox of client `c` past its session? -/
def Move.collects (c : Nat) : Move → Bool
  | .input (.collect d _) => d = c
  | _ => false

/-- Responses go into a mailbox in the order in which the router has handled them. -/
theorem Trace.inboxed_sublist (es : Trace) (c : Nat) : List.Sublist (es.inboxed c) es.handled := by
  induction es with
  | nil => exact .slnil
  | cons e es ih =>
    cases e with
    | routed who f =>
      by_cases hc : who.client = c
      · have hcons : inboxed (.routed who f :: es) c = f :: inboxed es c := by
          simp [inboxed, RelayEvent.routed?, hc]
        rw [hcons]
        exact ih.cons_cons f
      · have hcons : inboxed (.routed who f :: es) c = inboxed es c := by
          simp [inboxed, RelayEvent.routed?, hc]
        rw [hcons]
        exact ih.cons f
    | missed f | recipientGone who f | recipientFull who f => exact ih.cons f
    | _ => exact ih

/-! ## One client -/

namespace Client

variable {c : Nat} {m : Move} {x x' : Client}

/-- What has been accepted for the client and not been written to it: the response in hand, and then
what its mailbox holds. -/
def undelivered (x : Client) : List Frame := x.inHand.toList ++ x.mailbox.frames

/-- A client gets the oldest response that is undelivered, or it gets nothing. In the second case
the same responses stay undelivered, unless the router has been at the mailbox or nobody is left to
empty it. -/
theorem Step.delivery (h : x.Step c m x') (hown : m.collects c = false) :
    (∃ f, m = .turn (.deliver c) ∧ x.phase? = some .serving ∧
      x.undelivered = f :: x'.undelivered ∧ x'.output = x.output ++ f.encode) ∨
    x'.output = x.output ∧
      (x'.inHand = x.inHand ∧ (m = .turn .route ∨ x'.mailbox.frames = x.mailbox.frames) ∨
        m ≠ .turn .route ∧ x'.undelivered = x.undelivered ∨
        x'.phase? = none ∨ x'.phase? = some .ended) := by
  cases h with
  | same => exact .inr ⟨rfl, .inl ⟨rfl, .inr rfl⟩⟩
  | hungUp =>
    obtain ⟨peer, mailbox, _ | k⟩ := x
    · exact .inr ⟨rfl, .inr (.inr (.inl rfl))⟩
    · exact .inr ⟨rfl, .inr (.inr (.inr rfl))⟩
  | collected => simp [Move.collects] at hown
  | offered => exact .inr ⟨rfl, .inl ⟨rfl, .inl rfl⟩⟩
  | @fetched f mailbox serving free taken =>
    obtain ⟨k, hk, -⟩ := Option.map_eq_some_iff.mp serving
    refine .inr ⟨by simp [output, withConnection, hk], .inr (.inl ⟨by simp, ?_⟩)⟩
    unfold Mailbox.take? at taken
    split at taken
    · next g frames hframes =>
      cases taken
      rw [undelivered, undelivered, free, hframes]
      simp [inHand, withConnection, hk]
    · cases taken
  | @delivered f serving hand =>
    obtain ⟨k, hk, -⟩ := Option.map_eq_some_iff.mp serving
    refine .inl ⟨f, rfl, serving, ?_, by simp [output, withConnection, hk]⟩
    rw [undelivered, hand]
    simp [undelivered, inHand, withConnection, hk]
  | sent | finished | left | broke | accepted | began | read =>
    obtain ⟨peer, mailbox, _ | k⟩ := x <;> exact .inr ⟨rfl, .inl ⟨rfl, .inr rfl⟩⟩

/-- A mailbox that is within its capacity stays so. -/
theorem Step.room (h : x.Step c m x') (hx : x.mailbox.frames.length ≤ x.mailbox.capacity) :
    x'.mailbox.capacity = x.mailbox.capacity ∧
      x'.mailbox.frames.length ≤ x.mailbox.capacity := by
  cases h with
  | hungUp => exact ⟨rfl, Nat.zero_le _⟩
  | collected => exact ⟨rfl, Nat.le_trans (List.drop_sublist _ _).length_le hx⟩
  | @fetched f mailbox _ _ taken =>
    unfold Mailbox.take? at taken
    split at taken
    · next f frames hframes =>
      cases taken
      rw [hframes] at hx
      exact ⟨rfl, Nat.le_of_succ_le hx⟩
    · cases taken
  | @offered f =>
    show (x.mailbox.offer f).2.capacity = _ ∧ (x.mailbox.offer f).2.frames.length ≤ _
    unfold Mailbox.offer
    split
    · split
      · next hroom =>
        refine ⟨rfl, ?_⟩
        rw [List.length_append, List.length_singleton]
        exact hroom
      · exact ⟨rfl, hx⟩
    · exact ⟨rfl, hx⟩
  | _ => exact ⟨rfl, hx⟩

end Client

namespace Relay

variable {r : Relay} {c : Nat} {m : Move}

/-! ## Newcomers -/

theorem Turned.length_clients {t : Turn} {r' : Relay} {es : List RelayEvent} (h : Turned r t r' es) :
    r'.clients.length = r.clients.length := by
  cases h with
  | offered =>
    unfold offer
    split
    · rfl
    · exact List.length_modify ..
  | began | read | readFailed | finished | fetched | delivered | undelivered | accepted
  | sessionStopped | sessionInterrupted => exact List.length_modify ..
  | acceptorStopped => exact List.length_map ..
  | _ => rfl

theorem mailboxCapacity_move (r : Relay) (m : Move) :
    (r.move m).1.mailboxCapacity = r.mailboxCapacity := by
  have hs := step_move r m
  generalize (r.move m).1 = r' at hs
  generalize (r.move m).2 = es at hs
  cases hs with
  | deviceSent | deviceEnded =>
    unfold withDeviceInput
    split <;> rfl
  | _ => rfl

/-- Who comes with a move has an empty mailbox of the common capacity, and has got nothing. -/
theorem client?_new (hnone : r.client? c = none) (m : Move) : (r.move m).1.client? c = none ∨
    ∃ x, (r.move m).1.client? c = some x ∧ x.mailbox = { capacity := r.mailboxCapacity } ∧
      x.inHand = none ∧ x.output = [] := by
  have hadded (peer : SocketAddress) {k : Option Connection} (hhand : k.bind (·.inHand) = none)
      (houtput : (k.map (·.output)).getD [] = []) : (r.addClient peer k).2.client? c = none ∨
      ∃ x, (r.addClient peer k).2.client? c = some x ∧
        x.mailbox = { capacity := r.mailboxCapacity } ∧ x.inHand = none ∧ x.output = [] := by
    rcases r.client?_addClient peer k c with h | ⟨-, hnew⟩
    · exact .inl (h.trans hnone)
    · exact .inr ⟨_, hnew, rfl, hhand, houtput⟩
  cases m with
  | input i =>
    have hreached := reached_apply r i
    simp only [move]
    generalize (r.apply i).1 = r' at hreached
    cases hreached with
    | nobody same => exact .inl (by rw [client?, same]; exact hnone)
    | client => exact .inl (by rw [client?_withClient, hnone]; simp)
    | attached | served | dialled => exact hadded _ rfl rfl
  | turn t =>
    left
    rcases r.turned_or_idle t with h | h
    · rw [client?, List.getElem?_eq_none_iff] at hnone ⊢
      rwa [h.length_clients]
    · rwa [h]

/-! ## What is written in one move -/

/-- What has been accepted for client `c` and not been written to it. -/
def undelivered (r : Relay) (c : Nat) : List Frame :=
  ((r.client? c).map Client.undelivered).getD []

/-- Nobody empties the mailbox of client `c` any more: it has no session, or that has ended. -/
def Unattended (r : Relay) (c : Nat) : Prop :=
  ∃ x, r.client? c = some x ∧ (x.phase? = none ∨ x.phase? = some .ended)

/-- It stays so, and what the mailbox holds is not written any more. -/
theorem Unattended.move (h : r.Unattended c) (hown : m.collects c = false) :
    (r.move m).1.Unattended c ∧ (r.move m).1.outputOf c = r.outputOf c := by
  obtain ⟨x, hx, hover⟩ := h
  have hstep := clientStep r m c
  rw [hx] at hstep
  generalize hx' : (r.move m).1.client? c = after at hstep
  cases hstep with
  | @stayed _ x' step =>
    refine ⟨⟨x', hx', step.ended hover⟩, ?_⟩
    rcases step.delivery hown with ⟨f, -, serving, -⟩ | ⟨hsame, -⟩
    · rcases hover with hover | hover <;> rw [hover] at serving <;> cases serving
    · simp [outputOf, hx, hx', hsame]

/-- What comes into a mailbox with a move stands behind what it holds, unless the session or
somebody else empties it. -/
theorem inbox_of_kept {frames : List Frame} (hinbox : r.inbox c = frames)
    (h : m = .turn .route ∨ (r.move m).1.inbox c = frames) :
    (r.move m).1.inbox c = frames ++ Trace.inboxed (r.move m).2 c := by
  by_cases hm : m = .turn .route
  · rw [hm, inbox_route, hinbox]
  · rw [inboxed_of_ne_route hm, List.append_nil]
    exact h.resolve_left hm

/-- What is undelivered and what comes in with a move is written in this order, or is undelivered
after the move. It may be lost only if nobody is left to write it. -/
theorem conserves (hown : m.collects c = false) :
    (∃ written : List Frame,
      (r.move m).1.outputOf c = r.outputOf c ++ written.flatMap (·.encode) ∧
      r.undelivered c ++ Trace.inboxed (r.move m).2 c =
        written ++ (r.move m).1.undelivered c) ∨
    (r.move m).1.outputOf c = r.outputOf c ∧ (r.move m).1.Unattended c := by
  have hother (hm : m ≠ .turn .route) :
      r.undelivered c ++ Trace.inboxed (r.move m).2 c = r.undelivered c := by
    rw [inboxed_of_ne_route hm, List.append_nil]
  cases hx : r.client? c with
  | none =>
    have hinbox : r.inbox c = [] := by simp [inbox, hx]
    have houtput : r.outputOf c = [] := by simp [outputOf, hx]
    have hnothing : r.undelivered c = [] := by simp [undelivered, hx]
    refine .inl ⟨[], ?_⟩
    rcases client?_new hx m with hx' | ⟨x', hx', hmailbox, hhand, hempty⟩
    · have hinbox' : (r.move m).1.inbox c = [] := by simp [inbox, hx']
      have hkept := inbox_of_kept hinbox (.inr hinbox')
      rw [hinbox', List.nil_append] at hkept
      refine ⟨by rw [houtput]; simp [outputOf, hx'], ?_⟩
      rw [hnothing, ← hkept]
      simp [undelivered, hx']
    · have hinbox' : (r.move m).1.inbox c = [] := by simp [inbox, hx', hmailbox]
      have hkept := inbox_of_kept hinbox (.inr hinbox')
      rw [hinbox', List.nil_append] at hkept
      refine ⟨by rw [houtput]; simp [outputOf, hx', hempty], ?_⟩
      rw [hnothing, ← hkept]
      simp [undelivered, hx', Client.undelivered, hhand, hmailbox]
  | some x =>
    have hstep := clientStep r m c
    rw [hx] at hstep
    generalize hx' : (r.move m).1.client? c = after at hstep
    cases hstep with
    | @stayed _ x' step =>
      have houtput : r.outputOf c = x.output := by simp [outputOf, hx]
      have houtput' : (r.move m).1.outputOf c = x'.output := by simp [outputOf, hx']
      have hleft : r.undelivered c = x.undelivered := by simp [undelivered, hx]
      have hleft' : (r.move m).1.undelivered c = x'.undelivered := by simp [undelivered, hx']
      rcases step.delivery hown with
        ⟨f, rfl, -, hfront, hgot⟩ | ⟨hsame, ⟨hhand, hkept⟩ | ⟨hm, hkept⟩ | hover⟩
      · refine .inl ⟨[f], ?_, ?_⟩
        · rw [houtput, houtput', hgot]
          simp
        · rw [hother (by simp), hleft, hleft', hfront]
          rfl
      · refine .inl ⟨[], by simp [houtput, houtput', hsame], ?_⟩
        have hinbox : r.inbox c = x.mailbox.frames := by simp [inbox, hx]
        have hinbox' : (r.move m).1.inbox c = x'.mailbox.frames := by simp [inbox, hx']
        have hframes := inbox_of_kept hinbox (hkept.imp_right hinbox'.trans)
        rw [hleft, hleft', Client.undelivered, Client.undelivered, hhand, ← hinbox', hframes,
          List.append_assoc, List.nil_append]
      · refine .inl ⟨[], by simp [houtput, houtput', hsame], ?_⟩
        rw [hother hm, hleft, hleft', hkept, List.nil_append]
      · exact .inr ⟨by rw [houtput, houtput', hsame], _, hx', hover⟩

/-! ## What is written in a run -/

/-- Nobody but its session takes responses out of the mailbox of client `c`. -/
def OnlySessionCollects (c : Nat) (ms : List Move) : Prop := ∀ m ∈ ms, m.collects c = false

instance (c : Nat) (ms : List Move) : Decidable (OnlySessionCollects c ms) :=
  inferInstanceAs (Decidable (∀ m ∈ ms, m.collects c = false))

/-- What has gone into a mailbox is written from its front, and the rest is undelivered as long as
there is somebody to write it. -/
theorem exists_written (hr : r.clients = []) {ms : List Move} (honly : OnlySessionCollects c ms) :
    ∃ written : List Frame, (r.final ms).outputOf c = written.flatMap (·.encode) ∧
      written <+: (r.trace ms).inboxed c ∧
      (¬(r.final ms).Unattended c →
        (r.trace ms).inboxed c = written ++ (r.final ms).undelivered c) := by
  induction ms using List.reverseRecOn with
  | nil =>
    refine ⟨[], ?_, List.nil_prefix, fun _ => ?_⟩
    · simp [outputOf, client?, hr]
    · simp [undelivered, client?, hr, Trace.inboxed]
  | append_singleton ms m ih =>
    obtain ⟨written, houtput, hprefix, hrest⟩ :=
      ih fun m hm => honly m (List.mem_append_left _ hm)
    have hown : m.collects c = false := honly m (by simp)
    have hinboxed : (r.trace (ms ++ [m])).inboxed c =
        (r.trace ms).inboxed c ++ Trace.inboxed ((r.final ms).move m).2 c := by
      simp [Trace.inboxed]
    have hlonger : written <+: (r.trace (ms ++ [m])).inboxed c := by
      rw [hinboxed]
      exact hprefix.trans (List.prefix_append _ _)
    rw [final_append, final_cons, final_nil]
    by_cases hunattended : (r.final ms).Unattended c
    · obtain ⟨hafter, hsame⟩ := hunattended.move hown
      exact ⟨written, hsame.trans houtput, hlonger, fun h => absurd hafter h⟩
    · rcases conserves (r := r.final ms) hown with ⟨more, hgot, hkept⟩ | ⟨hsame, hafter⟩
      · have hall : (r.trace (ms ++ [m])).inboxed c =
            written ++ more ++ ((r.final ms).move m).1.undelivered c := by
          rw [hinboxed, hrest hunattended, List.append_assoc, hkept, List.append_assoc]
        refine ⟨written ++ more, ?_, ?_, fun _ => hall⟩
        · rw [hgot, houtput, List.flatMap_append]
        · rw [hall]
          exact List.prefix_append _ _
      · exact ⟨written, hsame.trans houtput, hlonger, fun h => absurd hafter h⟩

/-! ## Room in the mailboxes -/

/-- Every mailbox has the capacity that is common to all, and holds no more than that. -/
def Roomy (r : Relay) : Prop :=
  ∀ c x, r.client? c = some x →
    x.mailbox.capacity = r.mailboxCapacity ∧ x.mailbox.frames.length ≤ r.mailboxCapacity

theorem Roomy.move (h : r.Roomy) (m : Move) : (r.move m).1.Roomy := by
  intro c x' hx'
  rw [mailboxCapacity_move]
  cases hx : r.client? c with
  | none =>
    rcases client?_new hx m with hnone | ⟨x, hnew, hmailbox, -⟩
    · rw [hx'] at hnone
      cases hnone
    · obtain rfl : x' = x := Option.some.inj (hx'.symm.trans hnew)
      rw [hmailbox]
      exact ⟨rfl, Nat.zero_le _⟩
  | some x =>
    obtain ⟨hcapacity, hlength⟩ := h c x hx
    have hstep := clientStep r m c
    rw [hx, hx'] at hstep
    cases hstep with
    | stayed step =>
      rw [← hcapacity] at hlength ⊢
      exact step.room hlength

theorem roomy_final (hr : r.clients = []) (ms : List Move) :
    (r.final ms).Roomy ∧ (r.final ms).mailboxCapacity = r.mailboxCapacity := by
  induction ms using List.reverseRecOn with
  | nil => exact ⟨fun c x hx => by simp [client?, hr] at hx, rfl⟩
  | append_singleton ms m ih =>
    rw [final_append, final_cons, final_nil]
    exact ⟨ih.1.move m, (mailboxCapacity_move _ m).trans ih.2⟩

theorem length_inbox_le (hr : r.clients = []) (ms : List Move) (c : Nat) :
    ((r.final ms).inbox c).length ≤ r.mailboxCapacity := by
  obtain ⟨hroomy, hcapacity⟩ := roomy_final hr ms
  rw [← hcapacity]
  unfold inbox
  cases hx : (r.final ms).client? c with
  | none => exact Nat.zero_le _
  | some x => exact (hroomy c x hx).2

/-! ## At rest -/

/-- When no worker can take a turn, a session that has not ended has written all that was accepted
for its client. -/
theorem undelivered_of_quiet
    (hlistener : r.acceptor.hasListener = false → ∀ d, r.phaseOf d ≠ some .waiting)
    (hquiet : r.Quiet) {p : SessionPhase} (hphase : r.phaseOf c = some p) (hp : p ≠ .ended) :
    r.undelivered c = [] := by
  obtain ⟨x, hx, hxp⟩ := Option.bind_eq_some_iff.mp hphase
  obtain ⟨k, hk, rfl⟩ := Option.map_eq_some_iff.mp hxp
  have hfree := free_of_quiet hlistener hquiet hx hk hp
  have hfetch := hquiet (.fetch c)
  cases hframes : x.mailbox.frames with
  | nil => simp [undelivered, hx, Client.undelivered, hfree.2, hframes]
  | cons f frames =>
    simp [turn?, fetch?, freeSession?_of_free hx hfree hk, Mailbox.take?, hframes] at hfetch

/-! ## What a client gets -/

/-- What client `c` has got by the end of a run: `written` is all that its session has written, and
its mailbox has room for `capacity` responses. -/
structure Got (r : Relay) (c : Nat) (capacity : Nat) (ms : List Move) (written : List Frame) :
    Prop where
  output : (r.final ms).outputOf c = written.flatMap (·.encode)
  /-- It has been written from the front of what has gone into the mailbox. -/
  accepted : written <+: (r.trace ms).inboxed c
  /-- These are responses of the device, in the order in which it has sent them. -/
  sent : List.Sublist ((r.trace ms).inboxed c) (responses ms)
  room : ((r.final ms).inbox c).length ≤ capacity
  /-- As long as the session has not ended, nothing of them is lost: the session has the next one in
  hand, or it is still in the mailbox. -/
  rest : ∀ p, (r.final ms).phaseOf c = some p → p ≠ .ended →
    (r.trace ms).inboxed c = written ++ (r.final ms).undelivered c
  /-- When no worker can take a turn, all of them have been written. -/
  atRest : (r.final ms).Quiet → ∀ p, (r.final ms).phaseOf c = some p → p ≠ .ended →
    written = (r.trace ms).inboxed c

/-- **What a client gets.** Whatever happens to a relay, with a listener or without one: what a
session has written to its client are responses, complete and in order, from the front of those that
the router has put into its mailbox; and these are some of those that the device has sent, in its
order and unaltered. The mailbox never holds more than its capacity, and when no worker can take a
turn and the session has not ended, all of them have been written. -/
theorem client_gets_what_was_accepted {s : Settings}
    (hr : r = ofSettings s ∨ r = Instance.freshRelay s) {ms : List Move}
    (honly : OnlySessionCollects c ms) :
    ∃ written, r.Got c (max s.clientQueueCapacity 1) ms written := by
  obtain ⟨hfresh, hcapacity⟩ : r.Fresh ∧ r.mailboxCapacity = max s.clientQueueCapacity 1 := by
    rcases hr with rfl | rfl
    · exact ⟨fresh_ofSettings s, rfl⟩
    · exact ⟨fresh_freshRelay s, rfl⟩
  obtain ⟨written, houtput, haccepted, hrest⟩ := exists_written hfresh.clients honly
  have hwaits (p : SessionPhase) (hphase : (r.final ms).phaseOf c = some p) (hp : p ≠ .ended) :
      (r.trace ms).inboxed c = written ++ (r.final ms).undelivered c := by
    refine hrest fun ⟨x, hx, hover⟩ => ?_
    rw [phaseOf_of_client? hx] at hphase
    rcases hover with hover | hover <;> rw [hphase] at hover <;> cases hover
    exact hp rfl
  refine ⟨written, houtput, haccepted, ?_, ?_, hwaits, fun hquiet p hphase hp => ?_⟩
  · exact (Trace.inboxed_sublist _ c).trans (handled_isPrefix hfresh ms).sublist
  · rw [← hcapacity]
    exact length_inbox_le hfresh.clients ms c
  · have hempty :=
      undelivered_of_quiet (none_waiting hfresh.clients ms) hquiet hphase hp
    rw [hwaits p hphase hp, hempty, List.append_nil]

/-- Two clients whose mailboxes have room for one response. The device answers three requests of the
first and one of the second, in an order of its own; the second answer for the first client finds
its mailbox full, the third does not. -/
def answersInARush : List Move :=
  [ .input (.serve ⟨.v4 10 0 0 9, 40000⟩), .input (.serve ⟨.v4 127 0 0 1, 40001⟩),
    .turn (.begin 0), .turn (.begin 1), .input .startDispatcher ]
    ++ forwardOne 0 [0, 1, 0, 0, 0, 2, 1, 3] ++ forwardOne 0 [0, 2, 0, 0, 0, 2, 1, 3]
    ++ forwardOne 0 [0, 3, 0, 0, 0, 2, 1, 3] ++ forwardOne 1 [0, 9, 0, 0, 0, 2, 1, 3]
    ++ [ .input (.deviceSends [0, 2, 0, 0, 0, 2, 1, 3, 0, 9, 0, 0, 0, 2, 1, 3]), .turn .route,
      .turn .route, .input (.deviceSends [0, 3, 0, 0, 0, 2, 1, 3, 0, 1, 0, 0, 0, 2, 1, 3]),
      .turn .route, .turn (.fetch 0), .turn (.deliver 0), .turn .route, .turn (.fetch 0),
      .turn (.deliver 0), .turn (.fetch 1), .turn (.deliver 1), .turn .take ]

/-- The first client gets the first and the third answer to it, and nothing is left in its
mailbox. -/
theorem got_of_answersInARush :
    let r := ofSettings { clientQueueCapacity := 1 }
    OnlySessionCollects 0 answersInARush ∧ (responses answersInARush).length = 4 ∧
      (r.final answersInARush).Quiet ∧
      ∃ written, r.Got 0 1 answersInARush written ∧
        written.map (·.encode) = [[0, 2, 0, 0, 0, 2, 1, 3], [0, 1, 0, 0, 0, 2, 1, 3]] ∧
        (r.final answersInARush).outputOf 0 =
          [0, 2, 0, 0, 0, 2, 1, 3, 0, 1, 0, 0, 0, 2, 1, 3] := by
  intro r
  have honly : OnlySessionCollects 0 answersInARush := by decide
  have hquiet : (r.final answersInARush).Quiet := by decide +kernel
  obtain ⟨written, hgot⟩ :=
    client_gets_what_was_accepted (s := { clientQueueCapacity := 1 }) (.inl rfl) honly
  have hserving : (r.final answersInARush).phaseOf 0 = some .serving := by decide +kernel
  have hwritten : written.map (·.encode) =
      [[0, 2, 0, 0, 0, 2, 1, 3], [0, 1, 0, 0, 0, 2, 1, 3]] := by
    rw [hgot.atRest hquiet _ hserving (by simp)]
    decide +kernel
  refine ⟨honly, by decide +kernel, hquiet, written, hgot, hwritten, hgot.output.trans ?_⟩
  rw [List.flatMap_def, hwritten]
  rfl

end Relay

end ModbusRelay
