import ModbusRelay.Proofs.Frame.Cut
import ModbusRelay.Proofs.Relay.Alongside

/-!
A run in which a client does not send one of its frames.

`cutSends c a b` takes the bytes from place `a` up to place `b` out of all that client `c` sends,
from whichever pieces they came in, and leaves every other move as it is. If the session of `c` is
about to read a frame, then these places can be chosen such that just this frame is taken out, and
until then the two runs are the same to everybody (`cut_frame`): the session reads the frames before
it, and waits for them, at the same moves.

The induction (`takenOut`) goes from the first move to the last and carries the frames that the
session still reads before the one that is taken out: only they tell where in the stream it is.
-/

namespace ModbusRelay

/-- The bytes that a move brings from client `c`. -/
def Move.sends (c : Nat) : Move → List UInt8
  | .input (.clientSends d bytes) => if d = c then bytes else []
  | _ => []

/-- All that client `c` sends. -/
def sentBy (c : Nat) (ms : List Move) : List UInt8 := ms.flatMap (·.sends c)

/-- The move without the bytes from place `a` up to place `b` of those that it brings from client
`c`. -/
def Move.cut (c a b : Nat) : Move → Move
  | .input (.clientSends d bytes) =>
    .input (.clientSends d (if d = c then ModbusRelay.cut a b bytes else bytes))
  | m => m

/-- The moves without the bytes from place `a` up to place `b` of all that client `c` sends. -/
def cutSends (c : Nat) : Nat → Nat → List Move → List Move
  | _, _, [] => []
  | a, b, m :: ms =>
    m.cut c a b :: cutSends c (a - (m.sends c).length) (b - (m.sends c).length) ms

section CutSends

variable {c a b : Nat}

theorem sends_cut (m : Move) : (m.cut c a b).sends c = ModbusRelay.cut a b (m.sends c) := by
  cases m with
  | turn t => exact (cut_nil a b).symm
  | input i =>
    cases i with
    | clientSends d bytes =>
      show (if d = c then (if d = c then _ else _) else []) =
        ModbusRelay.cut a b (if d = c then _ else _)
      by_cases hd : d = c
      · rw [if_pos hd, if_pos hd, if_pos hd]
      · rw [if_neg hd, if_neg hd, cut_nil]
    | _ => exact (cut_nil a b).symm

theorem cut_of_sends (hab : a ≤ b) {m : Move} (h : (m.sends c).length ≤ a) : m.cut c a b = m := by
  unfold Move.cut
  split
  · next d bytes =>
    split
    · next hd =>
      rw [cut_of_length_le hab]
      simpa [Move.sends, hd] using h
    · rfl
  · rfl

@[simp]
theorem sentBy_cons (m : Move) (ms : List Move) : sentBy c (m :: ms) = m.sends c ++ sentBy c ms :=
  rfl

@[simp]
theorem sentBy_append (ms ns : List Move) : sentBy c (ms ++ ns) = sentBy c ms ++ sentBy c ns :=
  List.flatMap_append

/-- The client sends all but the bytes that are taken out. -/
theorem sentBy_cutSends (hab : a ≤ b) (ms : List Move) :
    sentBy c (cutSends c a b ms) = ModbusRelay.cut a b (sentBy c ms) := by
  induction ms generalizing a b with
  | nil => exact (cut_nil a b).symm
  | cons m ms ih =>
    rw [cutSends, sentBy_cons, sends_cut, ih (Nat.sub_le_sub_right hab _), sentBy_cons,
      cut_append hab]

/-- What comes before is left as it is. -/
theorem cutSends_append (hab : a ≤ b) {pre : List Move} (h : (sentBy c pre).length ≤ a)
    (ms : List Move) :
    cutSends c a b (pre ++ ms) =
      pre ++ cutSends c (a - (sentBy c pre).length) (b - (sentBy c pre).length) ms := by
  induction pre generalizing a b with
  | nil => rfl
  | cons m pre ih =>
    rw [sentBy_cons, List.length_append] at h ⊢
    rw [List.cons_append, cutSends, cut_of_sends hab (Nat.le_trans (Nat.le_add_right _ _) h),
      ih (Nat.sub_le_sub_right hab _) (Nat.le_sub_of_add_le' h), List.cons_append, Nat.sub_sub,
      Nat.sub_sub]

theorem registers_cutSends {ms : List Move} (h : Relay.OnlyDispatcherRecords ms) :
    Relay.OnlyDispatcherRecords (cutSends c a b ms) := by
  induction ms generalizing a b with
  | nil => exact h
  | cons m ms ih =>
    intro m' hm'
    rw [cutSends] at hm'
    rcases List.mem_cons.mp hm' with rfl | hm'
    · have hm := h m List.mem_cons_self
      unfold Move.cut
      split
      · rfl
      · exact hm
    · exact ih (fun n hn => h n (List.mem_cons_of_mem m hn)) m' hm'

end CutSends

namespace Relay

/-! ## What a session does next -/

section Intake

variable {r : Relay} {c : Nat} {x : Client}

/-- A session that is not free reads nothing. -/
theorem intake_of_not_free (hx : r.client? c = some x) (hfree : ¬x.Free) :
    r.move (.turn (.intake c)) = (r, []) := by
  refine move_of_turn?_none ?_
  cases ht : r.turn? (.intake c) with
  | none => rfl
  | some o =>
    obtain ⟨r', es⟩ := o
    -- Whatever the turn comes to, the session that takes it is free.
    cases turned ht with
    | read found serving connection free | readFailed found serving connection free
    | finished found serving connection free =>
      obtain rfl := Option.some.inj (hx.symm.trans found)
      exact absurd ⟨serving, (Client.inHand_of_connection connection).trans free⟩ hfree

/-- What the session of client `c` does with what it finds. -/
def handle (r : Relay) (c : Nat) (x : Client) (input : FrameReader) : FrameReader.Next → Outcome
  | .waiting => (r, [])
  | .item (.frame f) =>
    let q : Request := ⟨⟨c, x.peer⟩, f⟩
    ({ r.withReader c fun _ => input with queue := r.queue.push (.ofPeer x.peer) q },
      [.received (.ofPeer x.peer) q, .enqueued (.ofPeer x.peer) q])
  | .item (.failed e) =>
    (r.withClient c fun x => (x.withReader fun _ => input).hangUp,
      [.readFailed ⟨c, x.peer⟩ e, .disconnected ⟨c, x.peer⟩])
  | .finished =>
    (r.withClient c fun x => (x.withReader fun _ => input).hangUp,
      [.clientEnded ⟨c, x.peer⟩, .disconnected ⟨c, x.peer⟩])

theorem intake_of_next (hx : r.client? c = some x) (hfree : x.Free) {unread input : FrameReader}
    (hreader : x.reader? = some unread) {n : FrameReader.Next}
    (hnext : unread.next = (n, input)) :
    r.move (.turn (.intake c)) = r.handle c x input n := by
  obtain ⟨k, hk, rfl⟩ := Option.map_eq_some_iff.mp hreader
  have hturn (o : Option Outcome) (h : r.intake? c = o) :
      r.move (.turn (.intake c)) = o.getD (r, []) := by
    rw [← h]
    rfl
  unfold intake? at hturn
  rw [freeSession?_of_free hx hfree hk] at hturn
  simp only [Option.bind_eq_bind, Option.bind_some, hnext] at hturn
  rw [hturn _ rfl]
  cases n with
  | waiting | finished => rfl
  | item i => cases i <;> rfl

/-- When the session queues something, it has read a frame. -/
theorem intake_of_queued (h : Trace.queued (r.move (.turn (.intake c))).2 ≠ []) :
    ∃ x unread f input, r.client? c = some x ∧ x.Free ∧
      x.reader? = some unread ∧ unread.next = (.item (.frame f), input) ∧
      r.move (.turn (.intake c)) = r.handle c x input (.item (.frame f)) := by
  cases ht : r.turn? (.intake c) with
  | none =>
    rw [move_of_turn?_none ht] at h
    exact absurd rfl h
  | some o =>
    rw [move_of_turn? ht] at h
    obtain ⟨r', es⟩ := o
    cases turned ht with
    | @read _ x k f input found serving connection free next =>
      have hreader := Client.reader?_of_connection connection
      have hfree : x.Free := ⟨serving, (Client.inHand_of_connection connection).trans free⟩
      exact ⟨x, k.input, f, input, found, hfree, hreader, next,
        intake_of_next found hfree hreader next⟩
    | readFailed | finished => exact absurd rfl h

theorem client?_withInput (hx : r.client? c = some x) (hrunning : x.phase? ≠ some .ended)
    (change : FrameReader → FrameReader) :
    (r.withInput c change).client? c = some (x.withReader change) := by
  unfold withInput
  rw [client?_withClient, if_pos rfl, hx]
  obtain ⟨peer, mailbox, _ | k⟩ := x
  · rfl
  · have hne : ¬k.phase = .ended := fun h => hrunning (congrArg some h)
    simp [Client.withReader, Client.withConnection, hne]

end Intake

/-! ## Moves of a client and its session when bytes are missing -/

section CutMoves

variable {r : Relay} {c a b : Nat} {x : Client} {unread input : FrameReader}

theorem intake_cut (hx : r.client? c = some x) (hfree : x.Free)
    (hreader : x.reader? = some unread) {n : FrameReader.Next}
    (hnext : (unread.cut a b).next = (n, input)) :
    (r.withReader c (·.cut a b)).move (.turn (.intake c)) =
      (r.withReader c (·.cut a b)).handle c (x.withReader (·.cut a b)) input n := by
  refine intake_of_next (r.client?_withReader_self c _ hx) ((x.free_withReader _).mpr hfree) ?_
    hnext
  rw [Client.reader?_withReader, hreader]
  rfl

/-- The session reads a frame that comes before the missing bytes. -/
theorem move_reads_cut (hx : r.client? c = some x) (hfree : x.Free)
    (hreader : x.reader? = some unread) {g : Frame}
    (hnext : unread.next = (.item (.frame g), input)) (a b : Nat) :
    (r.withReader c (·.cut (g.encode.length + a) (g.encode.length + b))).move (.turn (.intake c)) =
      Outcome.withReader (r.move (.turn (.intake c))) c (·.cut a b) := by
  have hsame : (r.withReader c (·.cut (g.encode.length + a) (g.encode.length + b))).withReader c
        (fun _ => input.cut a b) =
      (r.withReader c fun _ => input).withReader c (·.cut a b) := by
    rw [withReader_withReader, withReader_withReader]
  rw [intake_of_next hx hfree hreader hnext,
    intake_cut hx hfree hreader (FrameReader.next_cut_of_frame hnext)]
  refine Prod.ext ?_ rfl
  exact congrArg
    (fun s : Relay => { s with queue := r.queue.push (.ofPeer x.peer) ⟨⟨c, x.peer⟩, g⟩ }) hsame

/-- Of what the client sends, bytes are missing too. -/
theorem move_sends_cut (hx : r.client? c = some x) (hphase : x.phase? ≠ some .ended)
    (hreader : x.reader? = some unread) (hab : a ≤ b) (bytes : List UInt8) :
    (r.withReader c (·.cut a b)).move (.input (.clientSends c
        (ModbusRelay.cut (a - unread.buffer.length) (b - unread.buffer.length) bytes))) =
      Outcome.withReader (r.move (.input (.clientSends c bytes))) c (·.cut a b) := by
  refine Prod.ext ?_ rfl
  show (r.withClient c _).withClient c _ = (r.withClient c _).withClient c _
  rw [withClient_withClient, withClient_withClient]
  refine withClient_congr r fun y hy => ?_
  obtain rfl : x = y := Option.some.inj (hx.symm.trans hy)
  obtain ⟨peer, mailbox, _ | k⟩ := x
  · rfl
  · obtain rfl : k.input = unread := Option.some.inj hreader
    have hne : ¬k.phase = .ended := fun h => hphase (congrArg some h)
    simp only [Client.withReader, Client.withConnection, Option.map_some, hne, if_false,
      FrameReader.cut_feed hab]

/-- The client ends what it sends, or leaves. -/
theorem move_ends_cut {i : Input} {how : ReadEnd}
    (hi : i = .clientEnds c how ∨ i = .clientCloses c ∧ how = .closed) (a b : Nat) :
    (r.withReader c (·.cut a b)).move (.input i) =
      Outcome.withReader (r.move (.input i)) c (·.cut a b) := by
  rcases hi with rfl | ⟨rfl, rfl⟩
  all_goals
    refine Prod.ext (withClient_comm r fun _ y => ?_) rfl
    obtain ⟨peer, mailbox, _ | k⟩ := y
    · rfl
    · by_cases hended : k.phase = .ended <;>
        simp [Client.withReader, Client.withConnection, hended, FrameReader.cut_finish]

/-- A move that comes to the same but for what has come from the client. -/
theorem Alongside.cons_withReader {m m' : Move} {ms ms' : List Move}
    {change change' : FrameReader → FrameReader}
    (h : Alongside (r.move m).1 ms ((r.move m).1.withReader c change') ms' [])
    (hmove : (r.withReader c change).move m' = Outcome.withReader (r.move m) c change') :
    Alongside r (m :: ms) (r.withReader c change) (m' :: ms') [] := by
  refine .same (.withReader r c change) ?_ ?_
  · rw [hmove]
    rfl
  · rw [hmove]
    exact h

end CutMoves

/-! ## Taking a frame out -/

/-- The session of client `c` is about to read frame `f`. -/
def Reading (r : Relay) (c : Nat) (f : Frame) : Prop :=
  ∃ x unread input, r.client? c = some x ∧ x.Free ∧ x.reader? = some unread ∧
    unread.next = (.item (.frame f), input)

/-- How frame `f` can be taken out of what client `c` sends, given what its session has not read
yet: it comes after the frames `fs`. -/
structure TakenOut (r : Relay) (c : Nat) (f : Frame) (ms : List Move) (unread : FrameReader)
    (fs : List Frame) : Prop where
  bytes : fs.flatMap (·.encode) ++ f.encode <+: unread.buffer ++ sentBy c ms
  whole : unread.ended = true → fs.flatMap (·.encode) ++ f.encode <+: unread.buffer
  alongside :
    let a := (fs.flatMap (·.encode)).length
    let b := a + f.encode.length
    let ms' := cutSends c (a - unread.buffer.length) (b - unread.buffer.length) ms
    Alongside r ms (r.withReader c (·.cut a b)) ms' [] ∧
      (r.withReader c (·.cut a b)).final ms' =
        (r.final ms).withReader c (·.cut 0 f.encode.length)

variable {r : Relay} {c : Nat} {f : Frame} {x : Client} {unread : FrameReader} {m : Move}
  {ms : List Move} {fs : List Frame}

/-- A session that has ended, or a client without one, never reads. -/
theorem not_reading_of_ended (hx : r.client? c = some x)
    (hended : x.phase? = none ∨ x.phase? = some .ended) (ms : List Move) :
    ¬(r.final ms).Reading c f := by
  induction ms generalizing r x with
  | nil =>
    rintro ⟨y, -, -, hy, ⟨hphase, -⟩, -⟩
    obtain rfl : x = y := Option.some.inj (hx.symm.trans hy)
    rcases hended with h | h <;> rw [h] at hphase <;> cases hphase
  | cons m ms ih =>
    have hs := clientStep r m c
    rw [hx] at hs
    generalize hx' : (r.move m).1.client? c = o at hs
    cases hs with
    | stayed step => exact ih hx' (step.ended hended)

section Cons

variable {unread' : FrameReader}

/-- A move that brings nothing from the client and comes to the same without the frame. -/
theorem TakenOut.cons_of_comm (h : TakenOut (r.move m).1 c f ms unread' fs)
    (hsends : m.sends c = [])
    (hmove :
      let a := (fs.flatMap (·.encode)).length
      let b := a + f.encode.length
      (r.withReader c (·.cut a b)).move m = Outcome.withReader (r.move m) c (·.cut a b))
    (hbuffer : unread'.buffer = unread.buffer)
    (hended : unread.ended = true → unread'.ended = true) :
    TakenOut r c f (m :: ms) unread fs := by
  obtain ⟨hbytes, hwhole, halong, hfinal⟩ := h
  rw [hbuffer] at hbytes hwhole halong hfinal
  refine ⟨by rwa [sentBy_cons, hsends], fun h => hwhole (hended h), ?_⟩
  intro a b ms'
  have hms' : ms' = m :: cutSends c (a - unread.buffer.length) (b - unread.buffer.length) ms := by
    show m.cut c _ _ :: cutSends c _ _ ms = _
    rw [cut_of_sends (Nat.sub_le_sub_right (Nat.le_add_right _ _) _)
      (by rw [hsends]; exact Nat.zero_le _), hsends]
    rfl
  rw [hms', final_cons, hmove]
  exact ⟨halong.cons_withReader hmove, hfinal⟩

theorem TakenOut.cons_of_not_touches (h : TakenOut (r.move m).1 c f ms unread fs)
    (hx : r.client? c = some x) (hm : m.touches c = false) :
    TakenOut r c f (m :: ms) unread fs := by
  refine h.cons_of_comm ?_ (r.move_withReader c _ hx m hm) rfl id
  cases m with
  | turn t => rfl
  | input i =>
    cases i with
    | clientSends d bytes =>
      have hne : d ≠ c := by simpa [Move.touches] using hm
      exact if_neg hne
    | _ => rfl

/-- The client sends something: what belongs to the frame is taken out of it. -/
theorem TakenOut.cons_of_sent {bytes : List UInt8} (hx : r.client? c = some x)
    (hphase : x.phase? ≠ some .ended) (hreader : x.reader? = some unread)
    (h : TakenOut (r.move (.input (.clientSends c bytes))).1 c f ms (unread.feed bytes) fs) :
    TakenOut r c f (.input (.clientSends c bytes) :: ms) unread fs := by
  obtain ⟨hbytes, hwhole, halong, hfinal⟩ := h
  have hsends : (Move.input (.clientSends c bytes)).sends c = bytes := if_pos rfl
  have hfed : unread.ended = true → unread.feed bytes = unread := fun h => if_pos h
  have hopen : ¬unread.ended = true → (unread.feed bytes).buffer = unread.buffer ++ bytes := by
    intro h
    rw [FrameReader.feed, if_neg h]
  refine ⟨?_, ?_, ?_⟩
  · rw [sentBy_cons, hsends]
    by_cases hended : unread.ended = true
    · rw [hfed hended] at hwhole
      exact (hwhole hended).trans (List.prefix_append _ _)
    · rw [hopen hended, List.append_assoc] at hbytes
      exact hbytes
  · intro hended
    rw [hfed hended] at hwhole
    exact hwhole hended
  · intro a b ms'
    have hab : a ≤ b := Nat.le_add_right _ _
    -- After the end of the stream nothing is left to be taken out.
    have hrest (n : Nat) (hn : n ≤ b) :
        n - unread.buffer.length - bytes.length = n - (unread.feed bytes).buffer.length := by
      by_cases hended : unread.ended = true
      · rw [hfed hended] at hwhole ⊢
        have hle := (hwhole hended).length_le
        rw [List.length_append] at hle
        omega
      · rw [hopen hended, List.length_append, Nat.sub_sub]
    have hms' : ms' = .input (.clientSends c
        (ModbusRelay.cut (a - unread.buffer.length) (b - unread.buffer.length) bytes)) ::
        cutSends c (a - (unread.feed bytes).buffer.length) (b - (unread.feed bytes).buffer.length)
          ms := by
      show Move.cut c _ _ _ :: cutSends c _ _ ms = _
      rw [hsends, hrest a hab, hrest b (Nat.le_refl b)]
      simp only [Move.cut, if_true]
    have hmove := move_sends_cut hx hphase hreader hab bytes
    rw [hms', final_cons, hmove]
    exact ⟨halong.cons_withReader hmove, hfinal⟩

/-- The client ends what it sends, or leaves. -/
theorem TakenOut.cons_of_ended {i : Input} {how : ReadEnd}
    (hi : i = .clientEnds c how ∨ i = .clientCloses c ∧ how = .closed)
    (h : TakenOut (r.move (.input i)).1 c f ms (unread.finish how) fs) :
    TakenOut r c f (.input i :: ms) unread fs := by
  refine h.cons_of_comm ?_ (move_ends_cut hi _ _) rfl fun _ => FrameReader.ended_finish _ _
  rcases hi with rfl | ⟨rfl, -⟩ <;> rfl

/-- The session reads a frame that comes before the one that is taken out. -/
theorem TakenOut.cons_of_read {g : Frame} {input : FrameReader} (hx : r.client? c = some x)
    (hfree : x.Free) (hreader : x.reader? = some unread)
    (hnext : unread.next = (.item (.frame g), input))
    (h : TakenOut (r.move (.turn (.intake c))).1 c f ms input fs) :
    TakenOut r c f (.turn (.intake c) :: ms) unread (g :: fs) := by
  obtain ⟨hbytes, hwhole, halong, hfinal⟩ := h
  generalize hn : (fs.flatMap (·.encode)).length = n at halong hfinal
  obtain ⟨hbuffer, hended⟩ := FrameReader.next_eq_frame_iff.mp hnext
  refine ⟨?_, ?_, ?_⟩
  · rw [hbuffer, List.flatMap_cons, List.append_assoc, List.append_assoc]
    exact (List.prefix_append_right_inj _).mpr hbytes
  · intro h
    rw [hbuffer, List.flatMap_cons, List.append_assoc]
    exact (List.prefix_append_right_inj _).mpr (hwhole ((congrArg Option.isSome hended).trans h))
  · intro a b ms'
    have ha : a = g.encode.length + n := by
      rw [← hn]
      exact List.length_append
    have hb : b = g.encode.length + (n + f.encode.length) := by
      rw [← Nat.add_assoc, ← ha]
    have hms' : ms' = .turn (.intake c) ::
        cutSends c (n - input.buffer.length) (n + f.encode.length - input.buffer.length) ms := by
      have hshift (n : Nat) :
          g.encode.length + n - unread.buffer.length = n - input.buffer.length := by
        rw [hbuffer, List.length_append, Nat.add_sub_add_left]
      show _ :: cutSends c (a - _ - 0) (b - _ - 0) ms = _
      rw [Nat.sub_zero, Nat.sub_zero, ha, hb, hshift, hshift]
      rfl
    have hmove : (r.withReader c (·.cut a b)).move (.turn (.intake c)) =
        Outcome.withReader (r.move (.turn (.intake c))) c (·.cut n (n + f.encode.length)) := by
      rw [ha, hb]
      exact move_reads_cut hx hfree hreader hnext n _
    rw [hms', final_cons, hmove]
    exact ⟨halong.cons_withReader hmove, hfinal⟩

/-- The session looks at what has come from the client. -/
theorem TakenOut.cons_of_intake (hx : r.client? c = some x)
    (hreading : (r.final (.turn (.intake c) :: ms)).Reading c f)
    (ih : ∀ {r : Relay} {x : Client}, r.client? c = some x → (r.final ms).Reading c f →
      ∃ unread fs, x.reader? = some unread ∧ TakenOut r c f ms unread fs) :
    ∃ unread fs, x.reader? = some unread ∧ TakenOut r c f (.turn (.intake c) :: ms) unread fs := by
  rw [final_cons] at hreading
  by_cases hfree : x.Free
  · obtain ⟨k, hk, -⟩ := Option.map_eq_some_iff.mp hfree.1
    have hreader := Client.reader?_of_connection hk
    rcases hnext : k.input.next with ⟨next, input⟩
    have hmove := intake_of_next hx hfree hreader hnext
    have hends (o : Outcome)
        (h : o.1 = r.withClient c fun x => (x.withReader fun _ => input).hangUp)
        (hreading : (o.1.final ms).Reading c f) : False := by
      refine not_reading_of_ended (x := (x.withReader fun _ => input).hangUp) ?_ ?_ ms hreading
      · rw [h, client?_withClient, if_pos rfl, hx]
        rfl
      · right
        obtain ⟨peer, mailbox, _ | k⟩ := x
        · cases hk
        · rfl
    cases next with
    | waiting =>
      obtain rfl : input = k.input := FrameReader.next_eq_self hnext (by simp)
      rw [hmove] at hreading
      obtain ⟨unread, fs, hunread, h⟩ := ih hx hreading
      obtain rfl : k.input = unread := Option.some.inj (hreader.symm.trans hunread)
      refine ⟨k.input, fs, hreader, ?_⟩
      refine TakenOut.cons_of_comm (by rw [hmove]; exact h) rfl ?_ rfl id
      intro a b
      obtain ⟨rest, hrest⟩ := h.bytes
      rw [intake_cut hx hfree hreader (FrameReader.next_cut_of_waiting hnext hrest.symm), hmove]
      rfl
    | item i =>
      cases i with
      | frame g =>
        obtain ⟨unread', fs, hunread', h⟩ := ih (r := (r.move (.turn (.intake c))).1)
          (x := x.withReader fun _ => input) (by
            rw [hmove]
            exact r.client?_withReader_self c _ hx) hreading
        rw [Client.reader?_withReader, hreader] at hunread'
        obtain rfl : input = unread' := Option.some.inj hunread'
        exact ⟨k.input, g :: fs, hreader, h.cons_of_read hx hfree hreader hnext⟩
      | failed e => exact (hends _ (by rw [hmove]; rfl) hreading).elim
    | finished => exact (hends _ (by rw [hmove]; rfl) hreading).elim
  · have hmove := intake_of_not_free hx hfree
    rw [hmove] at hreading
    obtain ⟨unread, fs, hreader, h⟩ := ih hx hreading
    refine ⟨unread, fs, hreader, TakenOut.cons_of_comm (by rw [hmove]; exact h) rfl ?_ rfl id⟩
    intro a b
    rw [intake_of_not_free (r.client?_withReader_self c (·.cut a b) hx) (by simpa), hmove]
    rfl

/-- The client does something. -/
theorem TakenOut.cons_of_input {i : Input} (hx : r.client? c = some x)
    (hi : (Move.input i).touches c = true) (hreading : (r.final (.input i :: ms)).Reading c f)
    (ih : ∀ {r : Relay} {x : Client}, r.client? c = some x → (r.final ms).Reading c f →
      ∃ unread fs, x.reader? = some unread ∧ TakenOut r c f ms unread fs) :
    ∃ unread fs, x.reader? = some unread ∧ TakenOut r c f (.input i :: ms) unread fs := by
  have hopen : x.phase? ≠ none ∧ x.phase? ≠ some .ended := by
    constructor
    · exact fun h => not_reading_of_ended hx (.inl h) (.input i :: ms) hreading
    · exact fun h => not_reading_of_ended hx (.inr h) (.input i :: ms) hreading
  rw [final_cons] at hreading
  obtain ⟨peer, mailbox, _ | k⟩ := x
  · exact absurd rfl hopen.1
  · cases i with
    | clientSends d bytes =>
      obtain rfl : d = c := of_decide_eq_true hi
      obtain ⟨unread, fs, hreader, h⟩ := ih (client?_withInput hx hopen.2 (·.feed bytes)) hreading
      obtain rfl : k.input.feed bytes = unread := Option.some.inj hreader
      exact ⟨k.input, fs, rfl, h.cons_of_sent hx hopen.2 rfl⟩
    | clientEnds d how =>
      obtain rfl : d = c := of_decide_eq_true hi
      obtain ⟨unread, fs, hreader, h⟩ := ih (client?_withInput hx hopen.2 (·.finish how)) hreading
      obtain rfl : k.input.finish how = unread := Option.some.inj hreader
      exact ⟨k.input, fs, rfl, h.cons_of_ended (.inl rfl)⟩
    | clientCloses d =>
      obtain rfl : d = c := of_decide_eq_true hi
      have hne : ¬k.phase = .ended := fun h => hopen.2 (congrArg some h)
      have hleft : (r.move (.input (.clientCloses d))).1.client? d =
          some ⟨peer, mailbox, some { k with input := k.input.finish .closed, writable := false }⟩ := by
        show (r.withClient d _).client? d = _
        rw [client?_withClient, if_pos rfl, hx]
        simp [Client.withConnection, hne]
      obtain ⟨unread, fs, hreader, h⟩ := ih hleft hreading
      obtain rfl : k.input.finish .closed = unread := Option.some.inj hreader
      exact ⟨k.input, fs, rfl, h.cons_of_ended (.inr ⟨rfl, rfl⟩)⟩
    | _ => cases hi

end Cons

/-- Any frame that a session comes to read can be taken out. -/
theorem takenOut (ms : List Move) {r : Relay} {x : Client} (hx : r.client? c = some x)
    (hreading : (r.final ms).Reading c f) :
    ∃ unread fs, x.reader? = some unread ∧ TakenOut r c f ms unread fs := by
  induction ms generalizing r x with
  | nil =>
    obtain ⟨y, unread, input, hy, -, hreader, hnext⟩ := hreading
    obtain rfl : x = y := Option.some.inj (hx.symm.trans hy)
    obtain ⟨hbuffer, -⟩ := FrameReader.next_eq_frame_iff.mp hnext
    have hwhole : f.encode <+: unread.buffer := by
      rw [hbuffer]
      exact List.prefix_append _ _
    refine ⟨unread, [], hreader, hwhole.trans (List.prefix_append _ _), fun _ => hwhole, ?_⟩
    refine ⟨.nil (.withReader r c _), ?_⟩
    show r.withReader c (·.cut 0 (0 + f.encode.length)) = _
    rw [Nat.zero_add]
    rfl
  | cons m ms ih =>
    cases hm : m.touches c with
    | false =>
      have hs := clientStep r m c
      rw [hx] at hs
      generalize hx' : (r.move m).1.client? c = o at hs
      cases hs with
      | stayed step =>
        obtain ⟨unread, fs, hreader, h⟩ := ih hx' hreading
        rw [step.reader hm] at hreader
        exact ⟨unread, fs, hreader, h.cons_of_not_touches hx hm⟩
    | true =>
      cases m with
      | turn t =>
        cases t with
        | intake d =>
          obtain rfl : d = c := of_decide_eq_true hm
          exact TakenOut.cons_of_intake hx hreading ih
        | _ => cases hm
      | input i => exact TakenOut.cons_of_input hx hm hreading ih

/-- A client who was not there has come at some move, and nothing has come from it then. -/
theorem exists_arrival {r : Relay} (hr : r.client? c = none) {ms : List Move}
    (hx : (r.final ms).client? c = some x) :
    ∃ pre post y, ms = pre ++ post ∧ (r.final pre).client? c = some y ∧
      ∀ unread, y.reader? = some unread → unread = {} := by
  induction ms generalizing r with
  | nil =>
    rw [final_nil, hr] at hx
    cases hx
  | cons m ms ih =>
    have hs := clientStep r m c
    rw [hr] at hs
    generalize hy : (r.move m).1.client? c = o at hs
    cases hs with
    | absent =>
      obtain ⟨pre, post, y, rfl, hpre, hreader⟩ := ih hy hx
      exact ⟨m :: pre, post, y, rfl, hpre, hreader⟩
    | came _ hreader _ => exact ⟨[m], ms, _, rfl, hy, hreader⟩

/-- The frame that a session is about to read is part of what its client has sent, and without it
the run is the same to everybody up to here. Only the bytes of the frame are missing now. -/
theorem cut_frame {r : Relay} (hr : r.clients = []) {ms : List Move}
    (hreading : (r.final ms).Reading c f) :
    ∃ u v, sentBy c ms = u ++ f.encode ++ v ∧
      let ms' := cutSends c u.length (u.length + f.encode.length) ms
      Alongside r ms r ms' [] ∧
        r.final ms' = (r.final ms).withReader c (·.cut 0 f.encode.length) := by
  have hnone : r.client? c = none := by
    unfold client?
    rw [hr]
    rfl
  have ⟨_, _, _, hthere, _⟩ := hreading
  obtain ⟨pre, post, x, rfl, hx, hnew⟩ := exists_arrival hnone hthere
  rw [final_append] at hreading
  obtain ⟨unread, fs, hreader, ⟨v, hv⟩, -, halong, hfinal⟩ := takenOut post hx hreading
  obtain rfl := hnew unread hreader
  refine ⟨sentBy c pre ++ fs.flatMap (·.encode), v, ?_, ?_⟩
  · rw [sentBy_append, List.append_assoc, List.append_assoc, ← List.append_assoc (fs.flatMap _), hv]
    rfl
  · intro ms'
    have hself (a b : Nat) : (r.final pre).withReader c (·.cut a b) = r.final pre := by
      have hnothing : FrameReader.cut a b {} = id {} := by
        rw [FrameReader.cut, cut_nil]
        rfl
      rw [withReader_congr _ c _ hx hreader hnothing]
      exact withReader_id (r.final pre) c
    have hms' : ms' = pre ++ cutSends c (fs.flatMap (·.encode)).length
        ((fs.flatMap (·.encode)).length + f.encode.length) post := by
      show cutSends c _ _ _ = _
      rw [cutSends_append (Nat.le_add_right _ _) (by rw [List.length_append]; omega),
        List.length_append, Nat.add_sub_cancel_left, Nat.add_assoc, Nat.add_sub_cancel_left]
    rw [hself] at halong hfinal
    rw [hms', final_append, final_append]
    exact ⟨(Alongside.refl r pre).append halong, hfinal⟩

end Relay

end ModbusRelay
