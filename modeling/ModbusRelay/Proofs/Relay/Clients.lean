import ModbusRelay.Proofs.Relay.Step

/-!
What one move can do to one client.

`Client.Step c x m x'` lists the cases for client `c`, as `Relay.Step` does for what the workers
share, and `clientStep` says that every move is one of them, or brings the client in. What holds of
a client all the time is proved by cases on `Client.Step`: a session that has ended has ended for
good (`Step.ended`), only the client itself and its session touch the bytes between them
(`Step.reader`), and only the router puts responses into a mailbox (`Step.frames`).

The world by itself moves no session on and delivers nothing (`reached_apply`).
-/

namespace ModbusRelay

namespace Client

/-- Changes what has come from the client and is not read, if there is a connection. -/
def withReader (x : Client) (change : FrameReader → FrameReader) : Client :=
  x.withConnection fun k => { k with input := change k.input }

/-- What has come from the client and is not read, if there is a connection. -/
def reader? (x : Client) : Option FrameReader := x.connection.map (·.input)

/-- The response that the session has in hand. -/
def inHand (x : Client) : Option Frame := x.connection.bind (·.inHand)

/-- The session waits for whatever comes next: it serves and has no response in hand. -/
def Free (x : Client) : Prop := x.phase? = some .serving ∧ x.inHand = none

instance (x : Client) : Decidable x.Free := inferInstanceAs (Decidable (_ ∧ _))

theorem inHand_of_connection {x : Client} {k : Connection} (h : x.connection = some k) :
    x.inHand = k.inHand := by
  rw [inHand, h, Option.bind_some]

theorem reader?_of_connection {x : Client} {k : Connection} (h : x.connection = some k) :
    x.reader? = some k.input := by
  rw [reader?, h, Option.map_some]

@[simp]
theorem free_withReader (x : Client) (change : FrameReader → FrameReader) :
    (x.withReader change).Free ↔ x.Free := by
  obtain ⟨peer, mailbox, _ | k⟩ := x <;> exact Iff.rfl

@[simp]
theorem phase?_withReader (x : Client) (change : FrameReader → FrameReader) :
    (x.withReader change).phase? = x.phase? := by
  obtain ⟨peer, mailbox, _ | k⟩ := x <;> rfl

@[simp]
theorem reader?_withReader (x : Client) (change : FrameReader → FrameReader) :
    (x.withReader change).reader? = x.reader?.map change := by
  obtain ⟨peer, mailbox, _ | k⟩ := x <;> rfl

/-- What move `m` can do to client `c`. -/
inductive Step (c : Nat) (x : Client) : Move → Client → Prop where
  | same {m : Move} : Step c x m x
  | hungUp {m : Move} : Step c x m x.hangUp
  | sent {bytes : List UInt8} (running : x.phase? ≠ some .ended) :
      Step c x (.input (.clientSends c bytes)) (x.withReader (·.feed bytes))
  | finished {how : ReadEnd} (running : x.phase? ≠ some .ended) :
      Step c x (.input (.clientEnds c how)) (x.withReader (·.finish how))
  | left (running : x.phase? ≠ some .ended) :
      Step c x (.input (.clientCloses c))
        ((x.withReader (·.finish .closed)).withConnection ({ · with writable := false }))
  | broke : Step c x (.input (.clientBreaks c)) (x.withConnection ({ · with writable := false }))
  | collected {count : Nat} :
      Step c x (.input (.collect c count)) { x with mailbox := (x.mailbox.takeUpTo count).2 }
  | accepted (waiting : x.phase? = some .waiting) :
      Step c x (.turn .accept) (x.withConnection ({ · with phase := .accepted }))
  | began (accepted : x.phase? = some .accepted) :
      Step c x (.turn (.begin c)) (x.withConnection ({ · with phase := .serving }))
  | read {f : Frame} {unread input : FrameReader} (serving : x.phase? = some .serving)
      (reader : x.reader? = some unread) (next : unread.next = (.item (.frame f), input)) :
      Step c x (.turn (.intake c)) (x.withReader fun _ => input)
  | fetched {f : Frame} {mailbox : Mailbox} (serving : x.phase? = some .serving)
      (free : x.inHand = none) (taken : x.mailbox.take? = some (f, mailbox)) :
      Step c x (.turn (.fetch c)) ({ x with mailbox }.withConnection ({ · with inHand := some f }))
  | delivered {f : Frame} (serving : x.phase? = some .serving) (inHand : x.inHand = some f) :
      Step c x (.turn (.deliver c))
        (x.withConnection fun k => { k with inHand := none, output := k.output ++ f.encode })
  | offered {f : Frame} : Step c x (.turn .route) { x with mailbox := (x.mailbox.offer f).2 }

end Client

/-- What a move can do to client `c`, who may not be there yet. -/
inductive ClientStep (c : Nat) (m : Move) : Option Client → Option Client → Prop where
  | absent : ClientStep c m none none
  | came {x : Client} (mailbox : x.mailbox.frames = [])
      (reader : ∀ unread, x.reader? = some unread → unread = {}) (inHand : x.inHand = none) :
      ClientStep c m none (some x)
  | stayed {x x' : Client} (step : x.Step c m x') : ClientStep c m (some x) (some x')

theorem ClientStep.refl {c : Nat} {m : Move} (o : Option Client) : ClientStep c m o o := by
  cases o with
  | none => exact .absent
  | some x => exact .stayed .same

namespace Relay

/-! ## Every move is one of the cases -/

variable {r : Relay} {c : Nat} {m : Move}

theorem freeSession?_of_free {x : Client} {k : Connection} (hx : r.client? c = some x)
    (hfree : x.Free) (hk : x.connection = some k) :
    r.freeSession? c = some (⟨c, x.peer⟩, x, k) := by
  have hhand : k.inHand = none := (Client.inHand_of_connection hk).symm.trans hfree.2
  simp [freeSession?, clientIn?, hx, hfree.1, hk, hhand]

/-- A change of one client. -/
theorem clientStep_withClient {d : Nat} {change : Client → Client}
    (h : ∀ x, r.client? d = some x → x.Step d m (change x)) :
    ClientStep c m (r.client? c) ((r.withClient d change).client? c) := by
  rw [client?_withClient]
  split
  · next heq =>
    subst heq
    cases hx : r.client? d with
    | none => exact .absent
    | some x => exact .stayed (h x hx)
  · exact ClientStep.refl _

/-- One more client, who has the next number. -/
theorem client?_addClient (r : Relay) (peer : SocketAddress) (k : Option Connection) (c : Nat) :
    (r.addClient peer k).2.client? c = r.client? c ∨
      r.client? c = none ∧
        (r.addClient peer k).2.client? c = some ⟨peer, { capacity := r.mailboxCapacity }, k⟩ := by
  unfold client? addClient
  rw [List.getElem?_append]
  split
  · exact .inl rfl
  · next hc =>
    rw [List.getElem?_eq_none (Nat.le_of_not_lt hc)]
    cases c - r.clients.length with
    | zero => exact .inr ⟨rfl, rfl⟩
    | succ n => exact .inl rfl

theorem clientStep_addClient (peer : SocketAddress) (k : Option Connection)
    (hk : ∀ k', k = some k' → k'.input = {} ∧ k'.inHand = none) :
    ClientStep c m (r.client? c) ((r.addClient peer k).2.client? c) := by
  rcases r.client?_addClient peer k c with h | ⟨hnone, hnew⟩
  · rw [h]
    exact ClientStep.refl _
  · rw [hnone, hnew]
    refine .came rfl (fun unread hunread => ?_) (Option.bind_eq_none_iff.mpr fun k' hk' =>
      (hk k' hk').2)
    obtain ⟨k', hk', rfl⟩ := Option.map_eq_some_iff.mp hunread
    exact (hk k' hk').1

/-- What is done to what a client has sent. -/
theorem step_withInput {x x' : Client} {change : FrameReader → FrameReader}
    (h : x.phase? ≠ some .ended → x.Step c m (x.withReader change))
    (hx' : x' = x.withConnection fun k =>
      if k.phase = .ended then k else { k with input := change k.input }) : x.Step c m x' := by
  subst hx'
  obtain ⟨peer, mailbox, connection⟩ := x
  cases connection with
  | none => exact .same
  | some k =>
    by_cases hended : k.phase = .ended
    · rw [show Client.withConnection ⟨peer, mailbox, some k⟩ _ = ⟨peer, mailbox, some k⟩ by
        simp [Client.withConnection, hended]]
      exact .same
    · have h := h fun hphase => hended (Option.some.inj hphase)
      rw [show Client.withConnection ⟨peer, mailbox, some k⟩ _ =
        Client.withReader ⟨peer, mailbox, some k⟩ change by
          simp [Client.withReader, Client.withConnection, hended]]
      exact h

theorem clientStep_apply (r : Relay) (i : Input) (c : Nat) :
    ClientStep c (.input i) (r.client? c) ((r.apply i).1.client? c) := by
  cases i with
  | attach peer => exact clientStep_addClient peer none fun k hk => by cases hk
  | serve peer =>
    refine clientStep_addClient peer _ fun k hk => ?_
    cases hk
    exact ⟨rfl, rfl⟩
  | dial peer =>
    simp only [apply]
    split
    · refine clientStep_addClient peer _ fun k hk => ?_
      cases hk
      exact ⟨rfl, rfl⟩
    · exact ClientStep.refl _
  | clientSends d bytes => exact clientStep_withClient fun x _ => step_withInput .sent rfl
  | clientEnds d how => exact clientStep_withClient fun x _ => step_withInput .finished rfl
  | clientCloses d =>
    refine clientStep_withClient fun x _ => ?_
    obtain ⟨peer, mailbox, connection⟩ := x
    cases connection with
    | none => exact .hungUp
    | some k =>
      dsimp only
      by_cases hended : k.phase = .ended
      · rw [show Client.withConnection ⟨peer, mailbox, some k⟩ _ = ⟨peer, mailbox, some k⟩ by
          simp [Client.withConnection, hended]]
        exact .same
      · rw [show Client.withConnection ⟨peer, mailbox, some k⟩ _ =
          (Client.withReader ⟨peer, mailbox, some k⟩ (·.finish .closed)).withConnection
            ({ · with writable := false }) by
          simp [Client.withReader, Client.withConnection, hended]]
        exact .left fun hphase => hended (Option.some.inj hphase)
  | clientBreaks d => exact clientStep_withClient fun x _ => .broke
  | push d p f =>
    simp only [apply, push]
    split <;> exact ClientStep.refl _
  | register d id =>
    simp only [apply, register]
    split <;> exact ClientStep.refl _
  | collect d count =>
    simp only [apply, collect]
    cases hd : r.client? d with
    | none => exact ClientStep.refl _
    | some x =>
      refine clientStep_withClient fun y hy => ?_
      rw [hd] at hy
      cases hy
      exact .collected
  | startDispatcher =>
    simp only [apply]
    split <;> exact ClientStep.refl _
  | deviceSends bytes | deviceEnds =>
    simp only [apply, withDeviceInput]
    split <;> exact ClientStep.refl _
  | failAccept | drain | deviceBreaks | wait time | cancel => exact ClientStep.refl _

theorem clientStep_offer (r : Relay) (who : Requester) (f : Frame) :
    ClientStep c (.turn .route) (r.client? c) ((r.offer who f).1.client? c) := by
  unfold offer
  cases hwho : r.client? who.client with
  | none => exact ClientStep.refl _
  | some x =>
    refine clientStep_withClient fun y hy => ?_
    rw [hwho] at hy
    cases hy
    exact .offered

theorem Turned.clientStep {t : Turn} {r' : Relay} {es : List RelayEvent} (h : Turned r t r' es)
    (c : Nat) : ClientStep c (.turn t) (r.client? c) (r'.client? c) := by
  -- A change of the one client that the turn has found.
  have hchange {d : Nat} {x : Client} {change : Client → Client} (found : r.client? d = some x)
      (hstep : x.Step d (.turn t) (change x)) :
      ClientStep c (.turn t) (r.client? c) ((r.withClient d change).client? c) := by
    refine clientStep_withClient fun y hy => ?_
    obtain rfl : x = y := Option.some.inj (found.symm.trans hy)
    exact hstep
  cases h with
  | offered => exact clientStep_offer (r.withResponse _ _) _ _
  | began found accepted => exact hchange found (.began accepted)
  | read found serving connection _ next =>
    exact hchange found (.read serving (Client.reader?_of_connection connection) next)
  | readFailed found | finished found | undelivered found | sessionStopped _ found
  | sessionInterrupted _ found => exact hchange found .hungUp
  | fetched found serving connection free taken =>
    exact hchange found
      (.fetched serving ((Client.inHand_of_connection connection).trans free) taken)
  | delivered found serving connection inHand =>
    exact hchange found
      (.delivered serving ((Client.inHand_of_connection connection).trans inHand))
  | accepted _ found waiting => exact hchange found (.accepted waiting)
  | acceptorStopped =>
    unfold client?
    rw [List.getElem?_map]
    cases r.clients[c]? with
    | none => exact .absent
    | some x =>
      refine .stayed ?_
      dsimp only
      split
      · exact .hungUp
      · exact .same
  | _ => exact ClientStep.refl _

theorem clientStep (r : Relay) (m : Move) (c : Nat) :
    ClientStep c m (r.client? c) ((r.move m).1.client? c) := by
  cases m with
  | input i => exact clientStep_apply r i c
  | turn t =>
    rcases r.turned_or_idle t with h | h
    · exact h.clientStep c
    · rw [h]
      exact ClientStep.refl _

/-! ## What an input leaves of the clients -/

/-- How an input can change the clients: it leaves them alone, it changes one without moving its
session on or delivering anything to it, or it brings one more in. -/
inductive Reached (r : Relay) : Input → Relay → Prop where
  | nobody {i : Input} {r' : Relay} (same : r'.clients = r.clients) : Reached r i r'
  | client {i : Input} {d : Nat} {change : Client → Client}
      (phase : ∀ x, (change x).phase? = x.phase?) (output : ∀ x, (change x).output = x.output) :
      Reached r i (r.withClient d change)
  | attached {peer : SocketAddress} : Reached r (.attach peer) (r.addClient peer none).2
  | served {peer : SocketAddress} :
      Reached r (.serve peer) (r.addClient peer (some { phase := .accepted })).2
  | dialled {peer : SocketAddress} (listener : r.acceptor.hasListener = true) :
      Reached r (.dial peer) (r.addClient peer (some { phase := .waiting })).2

/-- A change of the connection, if there is one, that leaves its phase and what it has got. -/
theorem Reached.connection {i : Input} {d : Nat} {change : Connection → Connection}
    (phase : ∀ k, (change k).phase = k.phase) (output : ∀ k, (change k).output = k.output) :
    Reached r i (r.withClient d (·.withConnection change)) := by
  refine .client (fun x => ?_) fun x => ?_ <;> obtain ⟨peer, mailbox, _ | k⟩ := x
  · rfl
  · exact congrArg some (phase k)
  · rfl
  · exact output k

theorem reached_apply (r : Relay) (i : Input) : Reached r i (r.apply i).1 := by
  cases i with
  | attach => exact .attached
  | serve => exact .served
  | dial =>
    simp only [apply]
    split
    · next listener => exact .dialled listener
    · exact .nobody rfl
  | clientSends | clientEnds =>
    refine .connection (fun k => ?_) fun k => ?_ <;> dsimp only <;> split <;> rfl
  | clientCloses =>
    refine .client (fun x => ?_) fun x => ?_ <;> obtain ⟨peer, mailbox, _ | k⟩ := x
    · rfl
    · by_cases h : k.phase = .ended <;> simp [Client.withConnection, Client.phase?, h]
    · rfl
    · by_cases h : k.phase = .ended <;> simp [Client.withConnection, Client.output, h]
  | clientBreaks => exact .connection (fun _ => rfl) fun _ => rfl
  | push =>
    simp only [apply, push]
    split <;> exact .nobody rfl
  | register =>
    simp only [apply, register]
    split <;> exact .nobody rfl
  | collect =>
    simp only [apply, collect]
    split
    · exact .nobody rfl
    · exact .client (fun _ => rfl) fun _ => rfl
  | startDispatcher =>
    simp only [apply]
    split <;> exact .nobody rfl
  | deviceSends | deviceEnds =>
    simp only [apply, withDeviceInput]
    split <;> exact .nobody rfl
  | failAccept | drain | deviceBreaks | wait | cancel => exact .nobody rfl

end Relay

/-- Does the move touch the bytes between client `c` and its session? -/
def Move.touches (c : Nat) : Move → Bool
  | .input (.clientSends d _) | .input (.clientEnds d _) | .input (.clientCloses d)
  | .turn (.intake d) => d = c
  | _ => false

/-! ## What holds of a client all the time -/

namespace Client

variable {c : Nat} {m : Move} {x x' : Client}

/-- A session that has ended, and a client without one, stay so. -/
theorem Step.ended (h : x.Step c m x') (hx : x.phase? = none ∨ x.phase? = some .ended) :
    x'.phase? = none ∨ x'.phase? = some .ended := by
  obtain ⟨peer, mailbox, _ | k⟩ := x
  · left
    cases h <;> rfl
  · cases h with
    | same | collected | offered => exact hx
    | hungUp => exact .inr rfl
    | accepted hphase | began hphase | read hphase | fetched hphase | delivered hphase =>
      rcases hx with hx | hx <;> rw [hx] at hphase <;> cases hphase
    | sent | finished | left | broke => exact hx

theorem Step.peer (h : x.Step c m x') : x'.peer = x.peer := by
  cases h <;> rfl

theorem Step.reader (h : x.Step c m x') (hm : m.touches c = false) : x'.reader? = x.reader? := by
  obtain ⟨peer, mailbox, _ | k⟩ := x
  · cases h <;> rfl
  · cases h with
    | sent | finished | left | read => simp [Move.touches] at hm
    | _ => rfl

/-- Only the router puts a response into a mailbox. -/
theorem Step.frames (h : x.Step c m x') (hm : m ≠ .turn .route) :
    x'.mailbox.frames <:+ x.mailbox.frames := by
  cases h with
  | offered => exact absurd rfl hm
  | hungUp => exact List.nil_suffix
  | collected => exact List.drop_suffix _ _
  | @fetched f mailbox _ _ taken =>
    unfold Mailbox.take? at taken
    split at taken
    · next f frames hframes =>
      cases taken
      show frames <:+ x.mailbox.frames
      rw [hframes]
      exact List.suffix_cons _ _
    · cases taken
  | _ => exact List.suffix_refl _

end Client

end ModbusRelay
