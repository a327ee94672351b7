import ModbusRelay.Proofs.Relay.Mailbox
import ModbusRelay.Proofs.Relay.Unread
import ModbusRelay.Proofs.Relay.Work

/-!
What there is besides one client.

`besides c` takes out of a relay what nobody but client `c` and its session can see: its mailbox,
and how its connection stands once it has been accepted. An acceptor that has closed its listener
waits for all sessions, and that it has done so is taken out as well. Of a list of events those are
left out that are about the session and the mailbox of `c`, and the acceptor's last. Each move is
one of three kinds:

* a move of another client does the same whatever client `c` is like (`move_withOther`);
* a move of nobody in particular looks at what there is besides `c`, and what it does to the rest
  follows from that (`besides_move`);
* a move of `c` itself changes nothing besides `c` but for the request that it may queue
  (`onlyQueues_move`).
-/

namespace ModbusRelay

/-- The client whose session or mailbox the event is about. -/
def RelayEvent.about? : RelayEvent → Option Nat
  | .connected who _ | .disconnected who | .readFailed who _ | .clientEnded who
  | .sessionStopping who | .delivered who _ | .writeFailed who _ _ | .routed who _ | .recipientGone who _
  | .recipientFull who _ => some who.client
  | .received _ request => some request.requester.client
  | _ => none

/-- The events but for those about the session or the mailbox of client `c`, and but for the one
that waits for all sessions. -/
def Trace.besides (es : Trace) (c : Nat) : Trace :=
  es.filter fun e => e.about? ≠ some c ∧ e ≠ .acceptorStopped

/-- What others see of a client: its address, and whether it waits to be accepted. -/
def Client.shell (x : Client) : Client :=
  { peer := x.peer
    mailbox := { capacity := 0, isOpen := false }
    connection := if x.phase? = some .waiting then some { phase := .waiting } else none }

/-- What others than the sessions see of the acceptor: whether it has a listener, and listens. -/
def Acceptor.shell : Acceptor → Acceptor
  | .joining => .closed
  | a => a

namespace Acceptor

variable (a : Acceptor)

@[simp]
theorem shell_shell : a.shell.shell = a.shell := by
  cases a <;> rfl

@[simp]
theorem hasListener_shell : a.shell.hasListener = a.hasListener := by
  cases a <;> rfl

@[simp]
theorem shell_eq_listening_iff : a.shell = .listening ↔ a = .listening := by
  cases a <;> simp [shell]

@[simp]
theorem shell_eq_resting_iff : a.shell = .resting ↔ a = .resting := by
  cases a <;> simp [shell]

theorem shell_ne_joining : a.shell ≠ .joining := by
  cases a <;> simp [shell]

end Acceptor

namespace Trace

variable (es es' : Trace) (c : Nat)

@[simp]
theorem besides_append : (es ++ es').besides c = es.besides c ++ es'.besides c :=
  List.filter_append _ _

variable {es c}

theorem besides_of_about (h : ∀ e ∈ es, e.about? = some c) : es.besides c = [] := by
  refine List.filter_eq_nil_iff.mpr fun e he => ?_
  simp [h e he]

/-- That a request comes on the queue is to be seen by all. -/
theorem queued_of_about (h : ∀ e ∈ es, e.about? = some c) : es.queued = [] := by
  refine List.filterMap_eq_nil_iff.mpr fun e he => ?_
  have habout := h e he
  cases e <;> first | rfl | cases habout

end Trace

namespace Client

theorem shell_congr {x y : Client} (hpeer : x.peer = y.peer)
    (hphase : x.phase? = some .waiting ↔ y.phase? = some .waiting) : x.shell = y.shell := by
  unfold shell
  simp only [hpeer, hphase]

@[simp]
theorem phase?_shell (x : Client) : x.shell.phase? = some .waiting ↔ x.phase? = some .waiting := by
  obtain ⟨peer, mailbox, _ | k⟩ := x
  · simp [shell, phase?]
  · by_cases h : k.phase = .waiting <;> simp [shell, phase?, h]

@[simp]
theorem shell_shell (x : Client) : x.shell.shell = x.shell :=
  shell_congr rfl x.phase?_shell

theorem shell_of_not_waiting {x y : Client} (hpeer : x.peer = y.peer)
    (hx : x.phase? ≠ some .waiting) (hy : y.phase? ≠ some .waiting) : x.shell = y.shell :=
  shell_congr hpeer ⟨fun h => absurd h hx, fun h => absurd h hy⟩

/-- What does not set the phase does not show. -/
theorem shell_withConnection (x : Client) {change : Connection → Connection}
    (h : ∀ k, (change k).phase = k.phase) : (x.withConnection change).shell = x.shell := by
  refine shell_congr rfl ?_
  obtain ⟨peer, mailbox, _ | k⟩ := x
  · rfl
  · simp [phase?, withConnection, h]

theorem phase?_hangUp (x : Client) : x.hangUp.phase? ≠ some .waiting := by
  obtain ⟨peer, mailbox, _ | k⟩ := x
  · simp [phase?, hangUp]
  · simp [phase?, hangUp]

end Client

namespace Relay

/-- The relay but for what only client `c` and its session can see. -/
def besides (r : Relay) (c : Nat) : Relay := r.withOther c Client.shell Acceptor.shell

/-- What there is to be seen of an outcome besides client `c`. -/
def Outcome.besides (o : Outcome) (c : Nat) : Outcome := (o.1.besides c, Trace.besides o.2 c)

section Fields

variable (r : Relay) (c : Nat)

@[simp]
theorem besides_queue : (r.besides c).queue = r.queue := rfl

@[simp]
theorem besides_pending : (r.besides c).pending = r.pending := rfl

@[simp]
theorem besides_device : (r.besides c).device = r.device := rfl

@[simp]
theorem besides_dispatcher : (r.besides c).dispatcher = r.dispatcher := rfl

@[simp]
theorem besides_routing : (r.besides c).routing = r.routing := rfl

@[simp]
theorem besides_acceptor : (r.besides c).acceptor = r.acceptor.shell := rfl

@[simp]
theorem besides_cancelled : (r.besides c).cancelled = r.cancelled := rfl

@[simp]
theorem besides_clock : (r.besides c).clock = r.clock := rfl

theorem client?_besides (d : Nat) :
    (r.besides c).client? d = (r.client? d).map fun x => if c = d then x.shell else x := by
  refine (client?_withClient r c d _).trans ?_
  split
  · rfl
  · simp

@[simp]
theorem besides_besides : (r.besides c).besides c = r.besides c :=
  (withOther_withOther r).trans
    (withOther_congr r (fun x _ => x.shell_shell) r.acceptor.shell_shell)

/-- The relay that is left over may be taken for the whole one. -/
theorem besides_same {s s' : Relay} {es : Trace} (h : s' = s.besides c) :
    Outcome.besides (s', es) c = Outcome.besides (s, es) c := by
  subst h
  exact Prod.ext (besides_besides s c) rfl

/-- The acceptor finds the same client to accept. -/
theorem nextWaiting?_besides : (r.besides c).nextWaiting? = r.nextWaiting? := by
  have hfold (xs : List Client) : xs.findIdx? (·.phase? == some .waiting) =
      (xs.map fun x => x.phase? == some .waiting).findIdx? id := by
    rw [List.findIdx?_map]
    rfl
  have hsame (x : Client) :
      (x.shell.phase? == some .waiting) = (x.phase? == some .waiting) := by
    rw [Bool.eq_iff_iff, beq_iff_eq, beq_iff_eq]
    exact x.phase?_shell
  unfold nextWaiting? besides withOther
  rw [hfold, hfold, map_withClient r hsame]

end Fields

/-! ## Moves of nobody in particular -/

section Common

variable (r : Relay) (c : Nat)

/-- A change that comes to the same for what others see of a client can be made without the rest. -/
theorem besides_withClient {d : Nat} {g : Client → Client}
    (h : c = d → ∀ x, (g x.shell).shell = (g x).shell) :
    ((r.besides c).withClient d g).besides c = (r.withClient d g).besides c := by
  by_cases hcd : c = d
  · subst hcd
    have hchanged (s : Relay) : (s.withClient c g).besides c =
        s.withOther c (fun x => (g x).shell) Acceptor.shell :=
      withOther_withOther s (f := g) (g := id)
    rw [hchanged, hchanged]
    exact (withOther_withOther r).trans
      (withOther_congr r (fun x _ => h rfl x) r.acceptor.shell_shell)
  · rw [besides, besides, withClient_withOther r hcd]
    exact besides_besides _ c

/-- A change that others do not see. -/
theorem besides_withClient_self {g : Client → Client}
    (h : ∀ x, r.client? c = some x → (g x).shell = x.shell) :
    (r.withClient c g).besides c = r.besides c :=
  congrArg (fun s : Relay => { s with acceptor := r.acceptor.shell })
    ((withClient_withClient r).trans (withClient_congr r h))

theorem besides_addClient (peer : SocketAddress) (k : Option Connection) :
    ((r.besides c).addClient peer k).2.besides c = (r.addClient peer k).2.besides c := by
  have hclients (xs : List Client) (y : Client) :
      (xs.modify c Client.shell ++ [y]).modify c Client.shell =
        (xs ++ [y]).modify c Client.shell := by
    refine List.ext_getElem? fun i => ?_
    simp only [List.getElem?_modify, List.getElem?_append, List.length_modify]
    by_cases hi : c = i <;> by_cases hlt : i < xs.length <;> simp [hi, hlt]
  unfold addClient besides withOther withClient
  dsimp only
  rw [hclients, Acceptor.shell_shell]

/-- What becomes of a response for client `c` does not show besides `c`. -/
theorem besides_offer_self {who : Requester} (hwho : who.client = c) (f : Frame) :
    (r.offer who f).besides c = (r.besides c, []) := by
  subst hwho
  unfold offer
  cases hx : r.client? who.client with
  | none => exact Prod.ext rfl (by simp [Outcome.besides, Trace.besides, RelayEvent.about?])
  | some x =>
    dsimp only
    refine Prod.ext (besides_withClient_self r _ fun y _ => ?_) ?_
    · exact Client.shell_congr rfl Iff.rfl
    · unfold Outcome.besides Trace.besides
      split <;> simp [RelayEvent.about?]

theorem besides_offer (who : Requester) (f : Frame) :
    Outcome.besides ((r.besides c).offer who f) c = (r.offer who f).besides c := by
  by_cases hwho : who.client = c
  · rw [besides_offer_self _ c hwho, besides_offer_self r c hwho, besides_besides]
  · have hne : c ≠ who.client := fun h => hwho h.symm
    unfold offer
    rw [besides, client?_withOther r hne]
    cases r.client? who.client with
    | none => exact besides_same c rfl
    | some x => exact Prod.ext (besides_withClient r c fun h => absurd h hne) rfl

theorem besides_routeResponse (f : Frame) :
    Outcome.besides ((r.besides c).routeResponse f) c = (r.routeResponse f).besides c := by
  simp only [routeResponse, besides_pending]
  rcases r.pending.take f.transactionId with ⟨owner, pending⟩
  cases owner with
  | none => exact besides_same c (by rfl)
  | some who =>
    have hoffer := besides_offer { r with pending } c who f
    have hrelay := congrArg Prod.fst hoffer
    have hevents := congrArg Prod.snd hoffer
    exact Prod.ext hrelay (congrArg (RelayEvent.pending pending.size :: ·) hevents)

theorem besides_route :
    (r.besides c).route?.map (·.besides c) = r.route?.map (·.besides c) := by
  refine apply_ite_eq (Option.map (Outcome.besides · c)) _ rfl (fun _ => ?_) fun _ => rfl
  rw [besides_device]
  rcases r.device.input.next with ⟨next, input⟩
  cases next with
  | waiting => rfl
  | finished => exact congrArg some (besides_same c (by rfl))
  | item i =>
    cases i with
    | frame f =>
      exact congrArg some (besides_routeResponse { r with device := { r.device with input } } c f)
    | failed e => exact congrArg some (besides_same c (by rfl))

theorem besides_take :
    (r.besides c).take?.map (·.besides c) = r.take?.map (·.besides c) := by
  refine apply_ite_eq (Option.map (Outcome.besides · c)) _ rfl (fun _ => ?_) fun _ => rfl
  rw [besides_queue]
  rcases r.queue.poll with ⟨_ | ⟨p, q⟩, queue⟩ <;> exact congrArg some (besides_same c (by rfl))

theorem besides_record :
    (r.besides c).record?.map (·.besides c) = r.record?.map (·.besides c) := by
  simp only [record?, besides_dispatcher, besides_pending, besides_clock]
  cases r.dispatcher with
  | holding p q =>
    dsimp only
    rcases r.pending.insert q.transactionId q.requester r.clock with ⟨cause | _ | orphan, pending⟩
    all_goals exact congrArg some (besides_same c (by rfl))
  | _ => rfl

theorem besides_write :
    (r.besides c).write?.map (·.besides c) = r.write?.map (·.besides c) := by
  simp only [write?, besides_dispatcher]
  cases r.dispatcher with
  | writing q =>
    by_cases h : r.device.writable = true <;>
      simp only [besides_device, h, if_true] <;> exact congrArg some (besides_same c (by rfl))
  | _ => rfl

theorem besides_apply (i : Input) (hi : (Move.input i).client? = none) :
    Outcome.besides ((r.besides c).apply i) c = (r.apply i).besides c := by
  have hadd (peer : SocketAddress) (k : Option Connection) :
      Outcome.besides (((r.besides c).addClient peer k).2, []) c =
        Outcome.besides ((r.addClient peer k).2, []) c :=
    Prod.ext (besides_addClient r c peer k) rfl
  cases i with
  | clientSends | clientEnds | clientCloses | clientBreaks | push | collect => cases hi
  | attach peer => exact hadd peer none
  | serve peer => exact hadd peer _
  | dial peer =>
    simp only [apply, besides_acceptor, Acceptor.hasListener_shell]
    split
    · exact hadd peer _
    · exact besides_same c rfl
  | register d id =>
    simp only [apply, register, client?_besides]
    cases r.client? d with
    | none => exact besides_same c rfl
    | some y =>
      have hpeer : (if c = d then y.shell else y).peer = y.peer := by
        split <;> rfl
      simp only [Option.map_some, hpeer]
      exact besides_same c (by rfl)
  | deviceSends bytes | deviceEnds =>
    simp only [apply, withDeviceInput, besides_routing]
    by_cases h : r.routing = true <;> simp only [h, if_true] <;> exact besides_same c (by rfl)
  | startDispatcher =>
    simp only [apply, besides_dispatcher]
    by_cases h : r.dispatcher = .unstarted <;> simp only [h, if_true, if_false] <;>
      exact besides_same c (by rfl)
  | failAccept | drain | deviceBreaks | wait | cancel => exact besides_same c (by rfl)

theorem besides_accept :
    (r.besides c).accept?.map (·.besides c) = r.accept?.map (·.besides c) := by
  -- Accepting makes client `c` one of those that do not wait.
  have haccept (x : Client) :
      (x.shell.withConnection ({ · with phase := .accepted })).shell =
        (x.withConnection ({ · with phase := .accepted })).shell := by
    refine Client.shell_congr rfl ?_
    obtain ⟨peer, mailbox, _ | k⟩ := x
    · simp [Client.shell, Client.withConnection, Client.phase?]
    · by_cases hk : k.phase = .waiting <;>
        simp [Client.shell, Client.withConnection, Client.phase?, hk]
  refine apply_ite_eq (Option.map (Outcome.besides · c)) _
    (propext r.acceptor.shell_eq_listening_iff) (fun _ => ?_) fun _ => rfl
  rw [nextWaiting?_besides]
  cases r.nextWaiting? with
  | none => rfl
  | some d =>
    refine apply_ite_eq (Option.map (Outcome.besides · c)) _ rfl (fun _ => ?_) fun _ => ?_
    · exact congrArg some (besides_same c (by rfl))
    · exact congrArg some (Prod.ext (besides_withClient r c fun _ x => haccept x) rfl)

theorem besides_stopAcceptor :
    (r.besides c).stopAcceptor?.map (·.besides c) = r.stopAcceptor?.map (·.besides c) := by
  have hclose (x : Client) :
      (if x.shell.phase? = some .waiting then x.shell.hangUp else x.shell).shell =
        (if x.phase? = some .waiting then x.hangUp else x).shell := by
    obtain ⟨peer, mailbox, _ | k⟩ := x
    · simp [Client.shell, Client.phase?]
    · by_cases hk : k.phase = .waiting <;>
        simp [Client.shell, Client.phase?, Client.hangUp, hk]
  have hclients : ((r.besides c).clients.map fun x =>
        if x.phase? = some .waiting then x.hangUp else x).modify c Client.shell =
      (r.clients.map fun x =>
        if x.phase? = some .waiting then x.hangUp else x).modify c Client.shell := by
    refine List.ext_getElem? fun i => ?_
    unfold besides withOther withClient
    simp only [List.getElem?_modify, List.getElem?_map]
    cases r.clients[i]? with
    | none => rfl
    | some x =>
      by_cases hi : c = i
      · simp only [hi, if_true]
        exact congrArg some (hclose x)
      · simp [hi]
  refine apply_ite_eq (Option.map (Outcome.besides · c)) _ ?_ (fun _ => ?_) fun _ => rfl
  · rw [besides_cancelled, besides_acceptor, Acceptor.shell_eq_listening_iff]
  · refine congrArg some (Prod.ext ?_ rfl)
    exact congrArg (fun clients => { r with acceptor := .closed, clients }) hclients

theorem besides_stopDispatcher :
    (r.besides c).stopDispatcher?.map (·.besides c) = r.stopDispatcher?.map (·.besides c) := by
  refine apply_ite_eq (Option.map (Outcome.besides · c)) _ rfl (fun _ => ?_) fun _ => rfl
  rw [besides_dispatcher]
  cases r.dispatcher with
  | holding | ended => rfl
  | _ => exact congrArg some (besides_same c (by rfl))

theorem besides_turn (t : Turn) (ht : (Move.turn t).client? = none) (hjoin : t ≠ .join) :
    ((r.besides c).turn? t).map (·.besides c) = (r.turn? t).map (·.besides c) := by
  cases t with
  | begin | intake | fetch | deliver | stopSession => cases ht
  | join => exact absurd rfl hjoin
  | route => exact besides_route r c
  | accept => exact besides_accept r c
  | stopAcceptor => exact besides_stopAcceptor r c
  | take => exact besides_take r c
  | record => exact besides_record r c
  | write => exact besides_write r c
  | resume =>
    exact apply_ite_eq (Option.map (Outcome.besides · c)) _
      (propext r.acceptor.shell_eq_resting_iff)
      (fun _ => congrArg some (Prod.ext (congrArg (fun s : Relay =>
        { s with acceptor := .listening }) (besides_besides r c)) rfl)) fun _ => rfl
  | stopRouter =>
    exact apply_ite_eq (Option.map (Outcome.besides · c)) _ rfl
      (fun _ => congrArg some (besides_same c (by rfl))) fun _ => rfl
  | stopDispatcher => exact besides_stopDispatcher r c

/-- That the acceptor ends does not show. -/
theorem besides_join : Outcome.besides ((r.besides c).move (.turn .join)) c =
    (r.move (.turn .join)).besides c := by
  have hnone : (r.besides c).move (.turn .join) = (r.besides c, []) :=
    move_of_turn?_none (if_neg fun h => r.acceptor.shell_ne_joining h.1)
  rw [hnone]
  rcases r.turned_or_idle .join with h | h
  · generalize r.move (.turn .join) = o at h
    obtain ⟨r', es⟩ := o
    cases h with
    | joined joining =>
      refine (besides_same c rfl).trans (Prod.ext ?_ rfl)
      show r.besides c = ({ r with acceptor := .closed } : Relay).besides c
      unfold besides withOther
      rw [joining]
      rfl
  · rw [h]
    exact besides_same c rfl

/-- **A move of nobody in particular does not look at what only client `c` can see.** -/
theorem besides_move (m : Move) (hm : m.client? = none) :
    Outcome.besides ((r.besides c).move m) c = (r.move m).besides c := by
  cases m with
  | input i => exact besides_apply r c i hm
  | turn t =>
    by_cases hjoin : t = .join
    · subst hjoin
      exact besides_join r c
    have hturn := besides_turn r c t hm hjoin
    simp only [move]
    cases h : r.turn? t with
    | none =>
      rw [h, Option.map_none, Option.map_eq_none_iff] at hturn
      rw [hturn]
      exact besides_same c rfl
    | some o =>
      rw [h, Option.map_some, Option.map_eq_some_iff] at hturn
      obtain ⟨o', ho', hsame⟩ := hturn
      rw [ho']
      exact hsame

end Common

/-! ## Moves of the client itself -/

/-- Requests come on the queue, and nothing else happens. -/
def enqueue (r : Relay) (requests : List (Priority × Request)) : Outcome :=
  ({ r with queue := r.queue.pushAll requests }, requests.map fun x => .enqueued x.1 x.2)

section Own

variable {r : Relay} {c : Nat}

/-- Others see of the outcome at most a request that comes on the queue. -/
structure OnlyQueues (r : Relay) (c : Nat) (o : Outcome) : Prop where
  seen : o.besides c = (r.besides c).enqueue (Trace.queued o.2)
  atMostOne : (Trace.queued o.2).length ≤ 1

theorem onlyQueues_nothing {r' : Relay} {es : Trace} (hr : r'.besides c = r.besides c)
    (hes : ∀ e ∈ es, e.about? = some c) : OnlyQueues r c (r', es) where
  seen := by
    rw [Trace.queued_of_about hes]
    exact Prod.ext hr (Trace.besides_of_about hes)
  atMostOne := by
    rw [Trace.queued_of_about hes]
    exact Nat.zero_le 1

theorem onlyQueues_unchanged : OnlyQueues r c (r, []) := onlyQueues_nothing rfl (by simp)

theorem onlyQueues_withClient {g : Client → Client}
    (h : ∀ x, r.client? c = some x → (g x).shell = x.shell) :
    OnlyQueues r c (r.withClient c g, []) :=
  onlyQueues_nothing (besides_withClient_self r c h) (by simp)

/-- A session can do with its client what it likes, as long as the client does not wait again. -/
theorem onlyQueues_session {x : Client} {phase : SessionPhase} (found : r.client? c = some x)
    (hin : x.phase? = some phase) (hphase : phase ≠ .waiting) {g : Client → Client}
    (hpeer : (g x).peer = x.peer) (hg : (g x).phase? ≠ some .waiting)
    {es : Trace} (hes : ∀ e ∈ es, e.about? = some c) :
    OnlyQueues r c (r.withClient c g, es) := by
  refine onlyQueues_nothing (besides_withClient_self r c fun y hy => ?_) hes
  obtain rfl : x = y := Option.some.inj (found.symm.trans hy)
  refine Client.shell_of_not_waiting hpeer hg ?_
  rw [hin]
  exact fun h => hphase (Option.some.inj h)

theorem onlyQueues_apply (i : Input) (hi : (Move.input i).client? = some c) :
    OnlyQueues r c (r.apply i) := by
  cases i with
  | clientSends | clientEnds =>
    obtain rfl := Option.some.inj hi
    refine onlyQueues_withClient fun x _ => x.shell_withConnection fun k => ?_
    split <;> rfl
  | clientCloses =>
    obtain rfl := Option.some.inj hi
    refine onlyQueues_withClient fun x _ => ?_
    split
    · next h => exact Client.shell_of_not_waiting rfl x.phase?_hangUp (by simp [Client.phase?, h])
    · refine x.shell_withConnection fun k => ?_
      split <;> rfl
  | clientBreaks =>
    obtain rfl := Option.some.inj hi
    exact onlyQueues_withClient fun x _ => x.shell_withConnection fun _ => rfl
  | push =>
    obtain rfl := Option.some.inj hi
    simp only [apply, push]
    split
    · exact onlyQueues_unchanged
    · exact ⟨rfl, Nat.le_refl 1⟩
  | collect =>
    obtain rfl := Option.some.inj hi
    simp only [apply, collect]
    split
    · exact onlyQueues_unchanged
    · exact onlyQueues_withClient fun x _ => Client.shell_congr rfl Iff.rfl
  | _ => cases hi

/-- A session that hangs up tells of itself only. -/
theorem onlyQueues_hangUp {x : Client} (found : r.client? c = some x)
    (serving : x.phase? = some .serving) {es : Trace} (hes : ∀ e ∈ es, e.about? = some c) :
    OnlyQueues r c (r.withClient c (·.hangUp), es) :=
  onlyQueues_session found serving (by decide) rfl x.phase?_hangUp hes

theorem Turned.onlyQueues {t : Turn} {r' : Relay} {es : Trace} (h : Turned r t r' es)
    (ht : (Move.turn t).client? = some c) : OnlyQueues r c (r', es) := by
  cases h with
  | @began d x found accepted =>
    obtain rfl := Option.some.inj ht
    refine onlyQueues_session found accepted (by decide) rfl ?_ (by simp [RelayEvent.about?])
    obtain ⟨peer, mailbox, _ | k⟩ := x <;> simp [Client.phase?, Client.withConnection]
  | @read d x k f input found =>
    obtain rfl := Option.some.inj ht
    have hread : (r.withClient d (·.withConnection ({ · with input }))).besides d = r.besides d :=
      besides_withClient_self r d fun y _ => y.shell_withConnection fun _ => rfl
    refine ⟨Prod.ext ?_ ?_, Nat.le_refl 1⟩
    · exact congrArg (fun s : Relay =>
        { s with queue := r.queue.push (.ofPeer x.peer) ⟨⟨d, x.peer⟩, f⟩ }) hread
    · simp only [Outcome.besides, Trace.besides, RelayEvent.about?]
      simp
      rfl
  | @fetched d x k f mailbox found serving connection
  | @delivered d x k f found serving connection =>
    obtain rfl := Option.some.inj ht
    refine onlyQueues_session found serving (by decide) rfl ?_ (by simp [RelayEvent.about?])
    rw [Client.phase?, connection, Option.map_some, Option.some.injEq] at serving
    simp [Client.phase?, Client.withConnection, connection, serving]
  | readFailed found serving | finished found serving | undelivered found serving
  | sessionStopped _ found serving | sessionInterrupted _ found serving =>
    obtain rfl := Option.some.inj ht
    exact onlyQueues_hangUp found serving (by simp [RelayEvent.about?])
  | _ => cases ht

/-- **A move of client `c` shows to others only by the request that it may queue.** -/
theorem onlyQueues_move (r : Relay) (m : Move) (hm : m.client? = some c) :
    OnlyQueues r c (r.move m) := by
  cases m with
  | input i => exact onlyQueues_apply i hm
  | turn t =>
    rcases r.turned_or_idle t with h | h
    · exact h.onlyQueues hm
    · rw [h]
      exact onlyQueues_unchanged

end Own

end Relay

end ModbusRelay
