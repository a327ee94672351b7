import ModbusRelay.Proofs.Relay.Clients
import ModbusRelay.Proofs.Relay.Run

/-!
What goes into a mailbox.

A mailbox gets a response only from the router, with a `routed` event: `inbox_move` gives the
mailboxes after a move in terms of the events of the move, and `routed_iff` says when the router
hands a response over and to whom.
-/

namespace ModbusRelay

namespace Relay

/-- The responses in the mailbox of a client. -/
def inbox (r : Relay) (c : Nat) : List Frame :=
  ((r.client? c).map (·.mailbox.frames)).getD []

/-- The mailbox is open and not full. -/
def Accepts (r : Relay) (c : Nat) : Prop :=
  ∃ client, r.client? c = some client ∧ client.mailbox.isOpen = true ∧
    client.mailbox.frames.length < client.mailbox.capacity

end Relay

/-- The responses that go into the mailbox of a client. -/
def Trace.inboxed (es : Trace) (c : Nat) : List Frame :=
  (es.routed.filter (·.1.client = c)).map (·.2)

namespace Relay

variable {r : Relay}

/-- Of all moves only a turn of the router puts something in. -/
theorem inbox_of_ne_route {m : Move} (hm : m ≠ .turn .route) (c : Nat) :
    (r.move m).1.inbox c <:+ r.inbox c := by
  have hs := clientStep r m c
  unfold inbox
  generalize r.client? c = x at hs
  generalize (r.move m).1.client? c = x' at hs
  cases hs with
  | absent => exact List.suffix_refl _
  | came mailbox =>
    rw [Option.map_some, Option.getD_some, mailbox]
    exact List.nil_suffix
  | stayed step => exact step.frames hm

/-! ## The router -/

/-- An offer is taken by an open mailbox that is not full; otherwise nothing changes. -/
theorem offer_spec (who : Requester) (f : Frame) :
    (r.Accepts who.client ∧ (r.offer who f).2 = [.routed who f] ∧
      ∀ c, (r.offer who f).1.inbox c = r.inbox c ++ if who.client = c then [f] else []) ∨
    (¬r.Accepts who.client ∧ Trace.routed (r.offer who f).2 = [] ∧
      ∀ c, (r.offer who f).1.inbox c = r.inbox c) := by
  unfold offer
  cases hclient : r.client? who.client with
  | none =>
    refine .inr ⟨?_, rfl, fun c => rfl⟩
    rintro ⟨client, h, -⟩
    rw [hclient] at h
    cases h
  | some client =>
    have hinbox (mailbox : Mailbox) (c : Nat) :
        (r.withClient who.client ({ · with mailbox })).inbox c =
          if who.client = c then mailbox.frames else r.inbox c := by
      unfold inbox
      rw [client?_withClient]
      split
      · next heq =>
        rw [← heq, hclient]
        rfl
      · rfl
    have hself (c : Nat) (h : who.client = c) : r.inbox c = client.mailbox.frames := by
      unfold inbox
      rw [← h, hclient]
      rfl
    unfold Mailbox.offer
    by_cases hopen : client.mailbox.isOpen = true
    · by_cases hroom : client.mailbox.frames.length < client.mailbox.capacity
      · refine .inl ⟨⟨client, hclient, hopen, hroom⟩, by simp [hopen, hroom], fun c => ?_⟩
        simp only [hopen, hroom, if_true]
        rw [hinbox]
        split
        · next heq => rw [hself c heq]
        · rw [List.append_nil]
      · refine .inr ⟨?_, by simp [hopen, hroom, RelayEvent.routed?], fun c => ?_⟩
        · rintro ⟨client', h, -, hroom'⟩
          rw [hclient] at h
          cases h
          exact hroom hroom'
        · simp only [hopen, hroom, if_true, if_false]
          rw [hinbox]
          split
          · next heq => rw [hself c heq]
          · rfl
    · refine .inr ⟨?_, by simp [hopen, RelayEvent.routed?], fun c => ?_⟩
      · rintro ⟨client', h, hopen', -⟩
        rw [hclient] at h
        cases h
        exact hopen hopen'
      · simp only [hopen, Bool.false_eq_true, if_false]
        rw [hinbox]
        split
        · next heq => rw [hself c heq]
        · rfl

/-- The router's turn when a response has come: the response goes to whom the table names, if the
mailbox accepts it, and otherwise nowhere. -/
theorem route_spec {f : Frame} {input : FrameReader} (hrouting : r.routing = true)
    (hnext : r.device.input.next = (.item (.frame f), input)) :
    (∃ e, r.pending.find? f.transactionId = some e ∧ r.Accepts e.value.client ∧
      Trace.routed (r.move (.turn .route)).2 = [(e.value, f)] ∧
      ∀ c, (r.move (.turn .route)).1.inbox c =
        r.inbox c ++ if e.value.client = c then [f] else []) ∨
    ((∀ e, r.pending.find? f.transactionId = some e → ¬r.Accepts e.value.client) ∧
      Trace.routed (r.move (.turn .route)).2 = [] ∧
      ∀ c, (r.move (.turn .route)).1.inbox c = r.inbox c) := by
  have hturn : r.turn? .route =
      some ({ r with device := { r.device with input } }.routeResponse f) := by
    simp only [turn?, route?, hrouting, if_true, hnext]
  rw [move_of_turn? hturn]
  have howner := r.pending.take_fst f.transactionId
  unfold routeResponse
  dsimp only
  cases hfind : r.pending.find? f.transactionId with
  | none =>
    rw [hfind] at howner
    rw [show (r.pending.take f.transactionId).1 = none from howner]
    refine .inr ⟨?_, rfl, fun c => rfl⟩
    intro e he
    cases he
  | some e =>
    rw [hfind] at howner
    rw [show (r.pending.take f.transactionId).1 = some e.value from howner]
    dsimp only
    rcases offer_spec (r := { r with
      device := { r.device with input }
      pending := (r.pending.take f.transactionId).2 }) e.value f with
      ⟨haccepts, hevents, hinbox⟩ | ⟨hrefuses, hevents, hinbox⟩
    · exact .inl ⟨e, rfl, haccepts, by rw [hevents]; rfl, hinbox⟩
    · refine .inr ⟨?_, ?_, hinbox⟩
      · intro e' he'
        cases he'
        exact hrefuses
      · rw [Trace.routed, List.filterMap_cons_none rfl]
        exact hevents

/-- Without a response to read the router hands nothing over. -/
theorem route_of_no_frame (h : ∀ f input, r.routing = true →
    r.device.input.next ≠ (.item (.frame f), input)) :
    Trace.routed (r.move (.turn .route)).2 = [] ∧
      ∀ c, (r.move (.turn .route)).1.inbox c = r.inbox c := by
  rcases r.turned_or_idle .route with hturned | hidle
  · generalize (r.move (.turn .route)).1 = r' at hturned ⊢
    generalize (r.move (.turn .route)).2 = es at hturned ⊢
    cases hturned with
    | missed routing next | offered routing next => exact absurd next (h _ _ routing)
    | lost _ told =>
      refine ⟨Trace.filterMap_of_kind (r.isLoss_loseDevice told) fun e he => ?_, fun c => rfl⟩
      cases e <;> first | rfl | cases he
  · rw [hidle]
    exact ⟨rfl, fun c => rfl⟩

/-- The router hands a response over just when it reads one, the table names somebody for it, and
the mailbox there accepts it. -/
theorem routed_iff {who : Requester} {f : Frame} :
    (who, f) ∈ Trace.routed (r.move (.turn .route)).2 ↔
      r.routing = true ∧ (∃ input, r.device.input.next = (.item (.frame f), input)) ∧
        (∃ e, r.pending.find? f.transactionId = some e ∧ e.value = who) ∧
        r.Accepts who.client := by
  by_cases h : ∃ g input, r.routing = true ∧ r.device.input.next = (.item (.frame g), input)
  · obtain ⟨g, input, hrouting, hnext⟩ := h
    rcases route_spec hrouting hnext with ⟨e, hfind, haccepts, hrouted, -⟩ | ⟨hno, hrouted, -⟩
    · rw [hrouted, List.mem_singleton]
      constructor
      · intro heq
        cases heq
        exact ⟨hrouting, ⟨input, hnext⟩, ⟨e, hfind, rfl⟩, haccepts⟩
      · rintro ⟨-, ⟨input', hnext'⟩, ⟨e', hfind', rfl⟩, -⟩
        rw [hnext] at hnext'
        cases hnext'
        rw [hfind] at hfind'
        cases hfind'
        rfl
    · rw [hrouted]
      constructor
      · intro hmem
        cases hmem
      · rintro ⟨-, ⟨input', hnext'⟩, ⟨e', hfind', rfl⟩, haccepts⟩
        rw [hnext] at hnext'
        cases hnext'
        exact absurd haccepts (hno e' hfind')
  · have hno : ∀ f input, r.routing = true → r.device.input.next ≠ (.item (.frame f), input) :=
      fun f input hrouting hnext => h ⟨f, input, hrouting, hnext⟩
    rw [(route_of_no_frame hno).1]
    constructor
    · intro hmem
      cases hmem
    · rintro ⟨hrouting, ⟨input, hnext⟩, -⟩
      exact absurd hnext (hno f input hrouting)

/-! ## Every move -/

theorem routed_of_ne_route {r' : Relay} {m : Move} {es : Trace} (hs : Step r m r' es)
    (hm : m ≠ .turn .route) : es.routed = [] := by
  cases hs with
  | aside _ _ _ _ _ _ quiet => exact Trace.routed_aside quiet
  | routed | lost => exact absurd rfl hm
  | _ => rfl

/-- The router adds to a mailbox what it hands over. -/
theorem inbox_route (r : Relay) (c : Nat) : (r.move (.turn .route)).1.inbox c =
    r.inbox c ++ Trace.inboxed (r.move (.turn .route)).2 c := by
  by_cases h : ∃ f input, r.routing = true ∧ r.device.input.next = (.item (.frame f), input)
  · obtain ⟨f, input, hrouting, hnext⟩ := h
    rcases route_spec hrouting hnext with ⟨e, -, -, hrouted, hinbox⟩ | ⟨-, hrouted, hinbox⟩
    · rw [hinbox, Trace.inboxed, hrouted]
      by_cases hc : e.value.client = c <;> simp [hc]
    · rw [hinbox, Trace.inboxed, hrouted]
      simp
  · obtain ⟨hrouted, hinbox⟩ := route_of_no_frame (r := r)
      fun f input hrouting hnext => h ⟨f, input, hrouting, hnext⟩
    rw [hinbox, Trace.inboxed, hrouted]
    simp

theorem inboxed_of_ne_route {m : Move} (hm : m ≠ .turn .route) (c : Nat) :
    Trace.inboxed (r.move m).2 c = [] := by
  rw [Trace.inboxed, routed_of_ne_route (step_move r m) hm]
  rfl

/-- After a move a mailbox holds what is left of its responses, and then those that the router has
just handed over. -/
theorem inbox_move (r : Relay) (m : Move) (c : Nat) :
    ∃ left, left <:+ r.inbox c ∧
      (r.move m).1.inbox c = left ++ Trace.inboxed (r.move m).2 c := by
  by_cases hm : m = .turn .route
  · subst hm
    exact ⟨r.inbox c, List.suffix_refl _, inbox_route r c⟩
  · rw [inboxed_of_ne_route hm]
    exact ⟨_, inbox_of_ne_route hm c, (List.append_nil _).symm⟩

end Relay

end ModbusRelay
