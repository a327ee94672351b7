import ModbusRelay.Proofs.Relay.Clients

/-!
Moves and the bytes that a session has not read.

A move of one client comes to the same whatever another client and the acceptor are like
(`move_withOther`). At the bytes that have come from a client only the client itself and its session
look, so a move of anybody else comes to the same whatever these bytes are (`move_withReader`), as
it does whatever work there is to be done (`move_withWork`).
-/

namespace ModbusRelay

/-- The client that does the move, or whose session does. -/
def Move.client? : Move → Option Nat
  | .input (.clientSends c _) | .input (.clientEnds c _) | .input (.clientCloses c)
  | .input (.clientBreaks c) | .input (.push c _ _) | .input (.collect c _)
  | .turn (.begin c) | .turn (.intake c) | .turn (.fetch c) | .turn (.deliver c)
  | .turn (.stopSession c) => some c
  | _ => none

namespace Client

variable (x : Client) (change : FrameReader → FrameReader)

/-- A change of the connection that has nothing to do with what has come from the client. -/
theorem withConnection_withReader {f : Connection → Connection}
    (h : ∀ k, f { k with input := change k.input } = { f k with input := change (f k).input }) :
    (x.withReader change).withConnection f = (x.withConnection f).withReader change := by
  obtain ⟨peer, mailbox, _ | k⟩ := x
  · rfl
  · exact congrArg (fun k => Client.mk peer mailbox (some k)) (h k)

theorem hangUp_withReader : (x.withReader change).hangUp = x.hangUp.withReader change := by
  obtain ⟨peer, mailbox, _ | k⟩ := x <;> rfl

end Client

namespace Relay

/-- The relay with something else come from client `c`. -/
def withReader (r : Relay) (c : Nat) (change : FrameReader → FrameReader) : Relay :=
  r.withClient c (·.withReader change)

/-- The outcome for a relay to which something else has come from client `c`. -/
def Outcome.withReader (o : Outcome) (c : Nat) (change : FrameReader → FrameReader) : Outcome :=
  (o.1.withReader c change, o.2)

/-! ## Changes of one client -/

section

variable {c : Nat} {f g : Client → Client} (r : Relay)

/-- Changes of different clients, or of different parts of a client, can be made in either order. -/
theorem withClient_comm {d : Nat} (h : c = d → ∀ x, f (g x) = g (f x)) :
    (r.withClient c f).withClient d g = (r.withClient d g).withClient c f := by
  unfold withClient
  by_cases hcd : c = d
  · subst hcd
    simp only [List.modify_modify_eq, Function.comp_def, h rfl]
  · simp only [List.modify_modify_ne _ _ _ hcd]

theorem withClient_withClient :
    (r.withClient c f).withClient c g = r.withClient c fun x => g (f x) := by
  unfold withClient
  simp only [List.modify_modify_eq, Function.comp_def]

/-- What a change leaves alone is the same for all clients. -/
theorem map_withClient {β : Type} {view : Client → β} (h : ∀ x, view (f x) = view x) :
    (r.withClient c f).clients.map view = r.clients.map view := by
  refine List.ext_getElem? fun i => ?_
  unfold withClient
  rw [List.getElem?_map, List.getElem?_map, List.getElem?_modify]
  cases r.clients[i]? with
  | none => rfl
  | some x =>
    by_cases hi : c = i
    · simp [hi, h]
    · simp [hi]

theorem map_comm_withClient (h : ∀ x, g (f x) = f (g x)) :
    (r.withClient c f).clients.map g = (r.clients.map g).modify c f := by
  refine List.ext_getElem? fun i => ?_
  unfold withClient
  rw [List.getElem?_map, List.getElem?_modify, List.getElem?_modify, List.getElem?_map]
  cases r.clients[i]? with
  | none => rfl
  | some x =>
    by_cases hi : c = i
    · simp [hi, h]
    · simp [hi]

end

/-! ## Moves of other clients -/

/-- The relay with another client changed, and the acceptor. -/
def withOther (r : Relay) (c : Nat) (f : Client → Client) (g : Acceptor → Acceptor) : Relay :=
  { r.withClient c f with acceptor := g r.acceptor }

/-- Changes of the same client and of the acceptor are made one after the other. -/
theorem withOther_withOther (r : Relay) {c : Nat} {f f' : Client → Client}
    {g g' : Acceptor → Acceptor} :
    (r.withOther c f g).withOther c f' g' =
      r.withOther c (fun x => f' (f x)) fun a => g' (g a) :=
  congrArg (fun s : Relay => { s with acceptor := g' (g r.acceptor) }) (withClient_withClient r)

/-- What matters is what the client and the acceptor are like in fact. -/
theorem withOther_congr (r : Relay) {c : Nat} {f f' : Client → Client} {g g' : Acceptor → Acceptor}
    (hf : ∀ x, r.client? c = some x → f x = f' x) (hg : g r.acceptor = g' r.acceptor) :
    r.withOther c f g = r.withOther c f' g' := by
  unfold withOther
  rw [withClient_congr r hf, hg]

section Others

variable (r : Relay) {c d : Nat} (hne : c ≠ d) (f : Client → Client) (g : Acceptor → Acceptor)

include hne

theorem client?_withOther : (r.withOther c f g).client? d = r.client? d := by
  refine (client?_withClient r c d f).trans ?_
  rw [if_neg hne]

theorem clientIn?_withOther (phase : SessionPhase) :
    (r.withOther c f g).clientIn? d phase = r.clientIn? d phase := by
  unfold clientIn?
  rw [client?_withOther r hne f g]

theorem freeSession?_withOther : (r.withOther c f g).freeSession? d = r.freeSession? d := by
  unfold freeSession?
  rw [clientIn?_withOther r hne f g]

theorem withClient_withOther (change : Client → Client) :
    (r.withOther c f g).withClient d change = (r.withClient d change).withOther c f g :=
  congrArg (fun s : Relay => { s with acceptor := g r.acceptor })
    (withClient_comm r fun h => absurd h hne)

theorem apply_withOther (i : Input) (hi : (Move.input i).client? = some d) :
    (r.withOther c f g).apply i = ((r.apply i).1.withOther c f g, (r.apply i).2) := by
  have hcomm := withClient_withOther r hne f g
  cases i with
  | clientSends | clientEnds | clientCloses | clientBreaks =>
    obtain rfl := Option.some.inj hi
    exact Prod.ext (hcomm _) rfl
  | push =>
    obtain rfl := Option.some.inj hi
    simp only [apply, push, client?_withOther r hne f g]
    split <;> rfl
  | collect =>
    obtain rfl := Option.some.inj hi
    simp only [apply, collect, client?_withOther r hne f g]
    split
    · rfl
    · exact Prod.ext (hcomm _) rfl
  | _ => cases hi

theorem begin_withOther : (r.withOther c f g).begin? d =
    (r.begin? d).map fun o => (o.1.withOther c f g, o.2) := by
  unfold begin?
  rw [clientIn?_withOther r hne f g]
  cases r.clientIn? d .accepted with
  | none => rfl
  | some found => exact congrArg some (Prod.ext (withClient_withOther r hne f g _) rfl)

theorem intake_withOther : (r.withOther c f g).intake? d =
    (r.intake? d).map fun o => (o.1.withOther c f g, o.2) := by
  have hcomm := withClient_withOther r hne f g
  unfold intake?
  rw [freeSession?_withOther r hne f g]
  cases r.freeSession? d with
  | none => rfl
  | some found =>
    obtain ⟨who, x, k⟩ := found
    simp only [Option.bind_eq_bind, Option.bind_some]
    rcases k.input.next with ⟨next, input⟩
    cases next with
    | waiting => rfl
    | finished => exact congrArg some (Prod.ext (hcomm _) rfl)
    | item i =>
      cases i with
      | frame q =>
        refine congrArg some (Prod.ext ?_ rfl)
        exact congrArg (fun s : Relay =>
          { s with queue := r.queue.push (.ofPeer x.peer) ⟨who, q⟩ }) (hcomm _)
      | failed e => exact congrArg some (Prod.ext (hcomm _) rfl)

theorem fetch_withOther : (r.withOther c f g).fetch? d =
    (r.fetch? d).map fun o => (o.1.withOther c f g, o.2) := by
  unfold fetch?
  rw [freeSession?_withOther r hne f g]
  cases r.freeSession? d with
  | none => rfl
  | some found =>
    obtain ⟨who, x, k⟩ := found
    simp only [Option.bind_eq_bind, Option.bind_some]
    cases x.mailbox.take? with
    | none => rfl
    | some taken => exact congrArg some (Prod.ext (withClient_withOther r hne f g _) rfl)

theorem deliver_withOther : (r.withOther c f g).deliver? d =
    (r.deliver? d).map fun o => (o.1.withOther c f g, o.2) := by
  have hcomm := withClient_withOther r hne f g
  unfold deliver?
  rw [clientIn?_withOther r hne f g]
  cases r.clientIn? d .serving with
  | none => rfl
  | some found =>
    obtain ⟨who, x⟩ := found
    simp only [Option.bind_eq_bind, Option.bind_some]
    cases x.connection with
    | none => rfl
    | some k =>
      simp only [Option.bind_some]
      cases k.inHand with
      | none => rfl
      | some q =>
        simp only [Option.bind_some]
        split <;> exact congrArg some (Prod.ext (hcomm _) rfl)

theorem stopSession_withOther : (r.withOther c f g).stopSession? d =
    (r.stopSession? d).map fun o => (o.1.withOther c f g, o.2) := by
  refine ite_eq_apply (Option.map fun o : Outcome => (o.1.withOther c f g, o.2)) rfl (fun _ => ?_)
    fun _ => rfl
  rw [clientIn?_withOther r hne f g]
  cases r.clientIn? d .serving with
  | none => rfl
  | some found =>
    obtain ⟨who, x⟩ := found
    simp only [Option.bind_eq_bind, Option.bind_some]
    cases x.connection with
    | none => rfl
    | some k => exact congrArg some (Prod.ext (withClient_withOther r hne f g _) rfl)

theorem turn_withOther (t : Turn) (ht : (Move.turn t).client? = some d) :
    (r.withOther c f g).turn? t = (r.turn? t).map fun o => (o.1.withOther c f g, o.2) := by
  cases t with
  | begin =>
    obtain rfl := Option.some.inj ht
    exact begin_withOther r hne f g
  | intake =>
    obtain rfl := Option.some.inj ht
    exact intake_withOther r hne f g
  | fetch =>
    obtain rfl := Option.some.inj ht
    exact fetch_withOther r hne f g
  | deliver =>
    obtain rfl := Option.some.inj ht
    exact deliver_withOther r hne f g
  | stopSession =>
    obtain rfl := Option.some.inj ht
    exact stopSession_withOther r hne f g
  | _ => cases ht

/-- A move of one client does the same whatever another client and the acceptor are like. -/
theorem move_withOther (m : Move) (hm : m.client? = some d) :
    (r.withOther c f g).move m = ((r.move m).1.withOther c f g, (r.move m).2) := by
  cases m with
  | input i => exact apply_withOther r hne f g i hm
  | turn t =>
    simp only [move, turn_withOther r hne f g t hm]
    cases r.turn? t <;> rfl

end Others

/-! ## Moves that do not look at the bytes -/

variable (r : Relay) (c : Nat) (change : FrameReader → FrameReader)

@[simp]
theorem withReader_queue : (r.withReader c change).queue = r.queue := rfl

@[simp]
theorem withReader_pending : (r.withReader c change).pending = r.pending := rfl

@[simp]
theorem withReader_device : (r.withReader c change).device = r.device := rfl

@[simp]
theorem withReader_dispatcher : (r.withReader c change).dispatcher = r.dispatcher := rfl

@[simp]
theorem withReader_routing : (r.withReader c change).routing = r.routing := rfl

@[simp]
theorem withReader_acceptor : (r.withReader c change).acceptor = r.acceptor := rfl

@[simp]
theorem withReader_cancelled : (r.withReader c change).cancelled = r.cancelled := rfl

@[simp]
theorem withReader_clock : (r.withReader c change).clock = r.clock := rfl

theorem client?_withReader (d : Nat) :
    (r.withReader c change).client? d =
      (r.client? d).map fun x => if c = d then x.withReader change else x := by
  refine (client?_withClient r c d _).trans ?_
  split
  · rfl
  · simp

theorem client?_withReader_self {x : Client} (hx : r.client? c = some x) :
    (r.withReader c change).client? c = some (x.withReader change) := by
  rw [client?_withReader, hx, Option.map_some, if_pos rfl]

/-- A client's name is not among the bytes that have come from it. -/
theorem peer_withReader_or (p : Prop) [Decidable p] (x : Client) :
    (if p then x.withReader change else x).peer = x.peer := by
  split <;> rfl

theorem mailbox_withReader_or (p : Prop) [Decidable p] (x : Client) :
    (if p then x.withReader change else x).mailbox = x.mailbox := by
  split <;> rfl

theorem connection_withReader_or (p : Prop) [Decidable p] (x : Client) :
    (if p then x.withReader change else x).connection =
      x.connection.map fun k => { k with input := if p then change k.input else k.input } := by
  obtain ⟨peer, mailbox, _ | k⟩ := x
  · split <;> rfl
  · split <;> rfl

/-- Bytes that come from a client, and a change of a client that does not look at them, can come in
either order. -/
theorem withClient_withReader (d : Nat) {f : Client → Client}
    (h : ∀ x : Client, f (x.withReader change) = (f x).withReader change) :
    (r.withReader c change).withClient d f = (r.withClient d f).withReader c change :=
  withClient_comm r fun _ x => (h x).symm

theorem withReader_withReader (later : FrameReader → FrameReader) :
    (r.withReader c change).withReader c later =
      r.withReader c fun input => later (change input) := by
  refine (withClient_withClient r).trans (withClient_congr r fun x _ => ?_)
  obtain ⟨peer, mailbox, _ | k⟩ := x <;> rfl

theorem withReader_id : r.withReader c id = r := by
  have hid : (fun x : Client => x.withReader id) = id := by
    funext ⟨peer, mailbox, k⟩
    cases k <;> rfl
  unfold withReader withClient
  rw [hid, List.modify_id]

/-- What matters is what has come from the client in fact. -/
theorem withReader_congr {x : Client} (hx : r.client? c = some x) {unread : FrameReader}
    (hreader : x.reader? = some unread) {change' : FrameReader → FrameReader}
    (h : change unread = change' unread) : r.withReader c change = r.withReader c change' := by
  refine withClient_congr r fun y hy => ?_
  obtain rfl : x = y := Option.some.inj (hx.symm.trans hy)
  obtain ⟨peer, mailbox, _ | k⟩ := x
  · rfl
  · obtain rfl : k.input = unread := Option.some.inj hreader
    simp [Client.withReader, Client.withConnection, h]

theorem clientIn?_withReader (d : Nat) (phase : SessionPhase) :
    (r.withReader c change).clientIn? d phase =
      (r.clientIn? d phase).map fun o => (o.1, if c = d then o.2.withReader change else o.2) := by
  unfold clientIn?
  rw [client?_withReader]
  cases r.client? d with
  | none => rfl
  | some x =>
    by_cases hcd : c = d
    · simp only [hcd, if_true, Option.map_some, Client.phase?_withReader]
      split <;> rfl
    · simp only [hcd, if_false, Option.map_some]
      split <;> rfl

theorem freeSession?_withReader (d : Nat) :
    (r.withReader c change).freeSession? d =
      (r.freeSession? d).map fun o =>
        (o.1, if c = d then o.2.1.withReader change else o.2.1,
          { o.2.2 with input := if c = d then change o.2.2.input else o.2.2.input }) := by
  unfold freeSession?
  rw [clientIn?_withReader]
  cases r.clientIn? d .serving with
  | none => rfl
  | some found =>
    obtain ⟨who, x⟩ := found
    simp only [Option.map_some, Option.bind_eq_bind, Option.bind_some, connection_withReader_or]
    cases x.connection with
    | none => rfl
    | some k =>
      simp only [Option.map_some, Option.bind_some]
      split <;> rfl

theorem nextWaiting?_withReader : (r.withReader c change).nextWaiting? = r.nextWaiting? := by
  have hfold (xs : List Client) : xs.findIdx? (·.phase? == some .waiting) =
      (xs.map Client.phase?).findIdx? (· == some .waiting) := by
    rw [List.findIdx?_map]
    rfl
  unfold nextWaiting? withReader
  rw [hfold, hfold, map_withClient r fun x => x.phase?_withReader change]

theorem offer_withReader (who : Requester) (f : Frame) :
    (r.withReader c change).offer who f = (r.offer who f).withReader c change := by
  unfold offer
  rw [client?_withReader]
  cases r.client? who.client with
  | none => rfl
  | some x =>
    simp only [Option.map_some, mailbox_withReader_or]
    rcases x.mailbox.offer f with ⟨answer, mailbox⟩
    exact Prod.ext (r.withClient_withReader c change _ fun _ => rfl) rfl

theorem addClient_withReader {x : Client} (hx : r.client? c = some x) (peer : SocketAddress)
    (k : Option Connection) :
    ((r.withReader c change).addClient peer k).2 = (r.addClient peer k).2.withReader c change := by
  obtain ⟨hlt, -⟩ := List.getElem?_eq_some_iff.mp hx
  have hclients (y : Client) : r.clients.modify c (·.withReader change) ++ [y] =
      (r.clients ++ [y]).modify c (·.withReader change) := by
    rw [List.modify_eq_take_cons_drop hlt, List.modify_eq_take_cons_drop (by simp; omega),
      List.take_append_of_le_length (Nat.le_of_lt hlt), List.drop_append_of_le_length hlt,
      List.getElem_append_left hlt]
    simp
  unfold addClient withReader withClient
  dsimp only
  rw [hclients]

theorem apply_withReader {x : Client} (hx : r.client? c = some x) (i : Input)
    (hi : (Move.input i).touches c = false) :
    (r.withReader c change).apply i = (r.apply i).withReader c change := by
  have hadd := r.addClient_withReader c change hx
  cases i with
  | clientSends d | clientEnds d _ | clientCloses d =>
    have hne : c ≠ d := fun h => by simp [Move.touches, h] at hi
    exact apply_withOther r hne (·.withReader change) id _ rfl
  | attach peer => exact Prod.ext (hadd peer none) rfl
  | serve peer => exact Prod.ext (hadd peer _) rfl
  | dial peer =>
    exact ite_eq_apply (Outcome.withReader · c change) rfl (fun _ => Prod.ext (hadd peer _) rfl)
      fun _ => rfl
  | clientBreaks d =>
    exact Prod.ext (r.withClient_withReader c change d fun y =>
      y.withConnection_withReader change fun _ => rfl) rfl
  | push d p f =>
    simp only [apply, push, client?_withReader]
    cases r.client? d with
    | none => rfl
    | some y =>
      simp only [Option.map_some, peer_withReader_or]
      rfl
  | register d id =>
    simp only [apply, register, client?_withReader]
    cases r.client? d with
    | none => rfl
    | some y =>
      simp only [Option.map_some, peer_withReader_or]
      rfl
  | collect d count =>
    simp only [apply, collect, client?_withReader]
    cases r.client? d with
    | none => rfl
    | some y =>
      simp only [Option.map_some, mailbox_withReader_or]
      exact Prod.ext (r.withClient_withReader c change d fun _ => rfl) rfl
  | deviceSends bytes | deviceEnds =>
    exact Prod.ext (ite_eq_apply (withReader · c change) rfl (fun _ => rfl) fun _ => rfl) rfl
  | startDispatcher =>
    exact Prod.ext (ite_eq_apply (withReader · c change) rfl (fun _ => rfl) fun _ => rfl) rfl
  | failAccept | drain | deviceBreaks | wait time | cancel => rfl

theorem routeResponse_withReader (f : Frame) :
    (r.withReader c change).routeResponse f = (r.routeResponse f).withReader c change := by
  simp only [routeResponse, withReader_pending]
  rcases r.pending.take f.transactionId with ⟨owner, pending⟩
  cases owner with
  | none => rfl
  | some who =>
    dsimp only
    have hoffer := offer_withReader { r with pending } c change who f
    show ((({ r with pending } : Relay).withReader c change |>.offer who f).1,
      RelayEvent.pending pending.size ::
        (({ r with pending } : Relay).withReader c change |>.offer who f).2) = _
    rw [hoffer]
    rfl

theorem route_withReader : (r.withReader c change).route? =
    r.route?.map (·.withReader c change) := by
  refine ite_eq_apply (Option.map (Outcome.withReader · c change)) rfl (fun _ => ?_) fun _ => rfl
  rw [withReader_device]
  rcases r.device.input.next with ⟨next, input⟩
  cases next with
  | waiting | finished => rfl
  | item i =>
    cases i with
    | frame f =>
      exact congrArg some (routeResponse_withReader
        { r with device := { r.device with input } } c change f)
    | failed e => rfl

theorem take_withReader : (r.withReader c change).take? =
    r.take?.map (·.withReader c change) := by
  refine ite_eq_apply (Option.map (Outcome.withReader · c change)) rfl (fun _ => ?_) fun _ => rfl
  rw [withReader_queue]
  rcases r.queue.poll with ⟨_ | ⟨p, q⟩, queue⟩ <;> rfl

theorem record_withReader : (r.withReader c change).record? =
    r.record?.map (·.withReader c change) := by
  simp only [record?, withReader_dispatcher, withReader_pending, withReader_clock]
  cases r.dispatcher with
  | holding p q =>
    dsimp only
    rcases r.pending.insert q.transactionId q.requester r.clock with ⟨answer, pending⟩
    rcases answer with cause | _ | orphan <;> rfl
  | _ => rfl

theorem write_withReader : (r.withReader c change).write? =
    r.write?.map (·.withReader c change) := by
  rcases r with ⟨queue, pending, mailboxCapacity, clients, ⟨input, writable, output⟩, dispatcher,
    routing, acceptor, acceptFailures, deviceUp, cancelled, clock⟩
  cases dispatcher with
  | writing q => cases writable <;> rfl
  | _ => rfl

theorem begin_withReader (d : Nat) : (r.withReader c change).begin? d =
    (r.begin? d).map (·.withReader c change) := by
  simp only [begin?, clientIn?_withReader]
  cases r.clientIn? d .accepted with
  | none => rfl
  | some found =>
    obtain ⟨who, x⟩ := found
    simp only [Option.map_some, Option.bind_eq_bind, Option.bind_some, peer_withReader_or]
    exact congrArg some (Prod.ext (r.withClient_withReader c change d fun y =>
      y.withConnection_withReader change fun _ => rfl) rfl)

theorem fetch_withReader (d : Nat) : (r.withReader c change).fetch? d =
    (r.fetch? d).map (·.withReader c change) := by
  simp only [fetch?, freeSession?_withReader]
  cases r.freeSession? d with
  | none => rfl
  | some found =>
    obtain ⟨who, x, k⟩ := found
    simp only [Option.map_some, Option.bind_eq_bind, Option.bind_some, mailbox_withReader_or]
    cases x.mailbox.take? with
    | none => rfl
    | some taken =>
      obtain ⟨f, mailbox⟩ := taken
      exact congrArg some (Prod.ext (r.withClient_withReader c change d fun z =>
        Client.withConnection_withReader { z with mailbox } change fun _ => rfl) rfl)

theorem deliver_withReader (d : Nat) : (r.withReader c change).deliver? d =
    (r.deliver? d).map (·.withReader c change) := by
  simp only [deliver?, clientIn?_withReader]
  cases r.clientIn? d .serving with
  | none => rfl
  | some found =>
    obtain ⟨who, x⟩ := found
    simp only [Option.map_some, Option.bind_eq_bind, Option.bind_some, connection_withReader_or]
    cases x.connection with
    | none => rfl
    | some k =>
      simp only [Option.map_some, Option.bind_some]
      cases k.inHand with
      | none => rfl
      | some f =>
        simp only [Option.bind_some]
        split
        · exact congrArg some (Prod.ext (r.withClient_withReader c change d fun z =>
            z.withConnection_withReader change fun _ => rfl) rfl)
        · exact congrArg some (Prod.ext (r.withClient_withReader c change d fun z =>
            z.hangUp_withReader change) rfl)

theorem accept_withReader : (r.withReader c change).accept? =
    r.accept?.map (·.withReader c change) := by
  refine ite_eq_apply (Option.map (Outcome.withReader · c change)) rfl (fun _ => ?_) fun _ => rfl
  rw [nextWaiting?_withReader]
  cases r.nextWaiting? with
  | none => rfl
  | some d =>
    exact ite_eq_apply (Option.map (Outcome.withReader · c change)) rfl (fun _ => rfl) fun _ =>
      congrArg some (Prod.ext (r.withClient_withReader c change d fun y =>
        y.withConnection_withReader change fun _ => rfl) rfl)

theorem forall_phase?_withReader (p : Option SessionPhase → Prop) :
    (∀ x ∈ (r.withReader c change).clients, p x.phase?) ↔ ∀ x ∈ r.clients, p x.phase? := by
  have hphases := r.map_withClient (c := c) fun x => x.phase?_withReader change
  rw [← List.forall_mem_map (f := Client.phase?) (P := p),
    ← List.forall_mem_map (f := Client.phase?) (P := p)]
  exact Iff.of_eq (congrArg (fun phases => ∀ phase ∈ phases, p phase) hphases)

theorem join_withReader : (r.withReader c change).join? =
    r.join?.map (·.withReader c change) := by
  refine ite_eq_apply (Option.map (Outcome.withReader · c change)) ?_ (fun _ => rfl) fun _ => rfl
  rw [withReader_acceptor, r.forall_phase?_withReader c change fun phase? =>
    phase? ≠ some .accepted ∧ phase? ≠ some .serving]

theorem stopDispatcher_withReader : (r.withReader c change).stopDispatcher? =
    r.stopDispatcher?.map (·.withReader c change) := by
  refine ite_eq_apply (Option.map (Outcome.withReader · c change)) rfl (fun _ => ?_) fun _ => rfl
  rw [withReader_dispatcher]
  cases r.dispatcher <;> rfl

theorem stopAcceptor_withReader : (r.withReader c change).stopAcceptor? =
    r.stopAcceptor?.map (·.withReader c change) := by
  have hclose := r.map_comm_withClient (c := c) (f := (·.withReader change))
    (g := fun x => if x.phase? = some .waiting then x.hangUp else x) fun x => by
      rw [Client.phase?_withReader]
      split
      · exact x.hangUp_withReader change
      · rfl
  exact ite_eq_apply (Option.map (Outcome.withReader · c change)) rfl (fun _ =>
    congrArg (fun clients => some ({ r with acceptor := .joining, clients }, [])) hclose)
    fun _ => rfl

theorem stopSession_withReader (d : Nat) : (r.withReader c change).stopSession? d =
    (r.stopSession? d).map (·.withReader c change) := by
  refine ite_eq_apply (Option.map (Outcome.withReader · c change)) rfl (fun _ => ?_) fun _ => rfl
  rw [clientIn?_withReader]
  cases r.clientIn? d .serving with
  | none => rfl
  | some found =>
    obtain ⟨who, x⟩ := found
    simp only [Option.map_some, Option.bind_eq_bind, Option.bind_some, connection_withReader_or]
    cases x.connection with
    | none => rfl
    | some k =>
      exact congrArg some (Prod.ext (r.withClient_withReader c change d fun y =>
        y.hangUp_withReader change) rfl)

theorem turn_withReader (t : Turn) (ht : (Move.turn t).touches c = false) :
    (r.withReader c change).turn? t = (r.turn? t).map (·.withReader c change) := by
  cases t with
  | route => exact r.route_withReader c change
  | take => exact r.take_withReader c change
  | record => exact r.record_withReader c change
  | write => exact r.write_withReader c change
  | begin d => exact r.begin_withReader c change d
  | intake d =>
    have hne : c ≠ d := fun h => by simp [Move.touches, h] at ht
    exact intake_withOther r hne (·.withReader change) id
  | fetch d => exact r.fetch_withReader c change d
  | deliver d => exact r.deliver_withReader c change d
  | accept => exact r.accept_withReader c change
  | resume =>
    simp only [turn?, resume?, withReader_acceptor]
    by_cases h : r.acceptor = .resting <;> simp only [h, if_true, if_false] <;> rfl
  | join => exact r.join_withReader c change
  | stopRouter =>
    simp only [turn?, stopRouter?, withReader_cancelled, withReader_routing]
    by_cases h : r.cancelled = true ∧ r.routing = true <;> simp only [h, if_false] <;> rfl
  | stopDispatcher => exact r.stopDispatcher_withReader c change
  | stopAcceptor => exact r.stopAcceptor_withReader c change
  | stopSession d => exact r.stopSession_withReader c change d

/-- A move that does not touch what has come from a client comes to the same whatever that is. -/
theorem move_withReader {x : Client} (hx : r.client? c = some x) (m : Move)
    (hm : m.touches c = false) :
    (r.withReader c change).move m = Outcome.withReader (r.move m) c change := by
  cases m with
  | input i => exact r.apply_withReader c change hx i hm
  | turn t =>
    simp only [move, r.turn_withReader c change t hm]
    cases r.turn? t <;> rfl

end Relay

end ModbusRelay
