import ModbusRelay.Proofs.Relay.Answer
import ModbusRelay.Proofs.Relay.Entry
import ModbusRelay.Proofs.Relay.Mailbox

/-!
Each response that is handed over uses up a request.

Nothing is assumed of the device: it may repeat, invent and reorder what it likes, and the policy
may let requests displace each other. Still every entry of the table has been put there by one
recording and has been there ever since (`exists_heldSince`), and a response that is handed over
takes its entry with it. So different responses use up different requests, each of them one of its
recipient's, under the id of the response (`responses_use_up_requests`).

A move of a run is named here by the beginning of the run before it, or by that up to and with it.
-/

namespace ModbusRelay

namespace Relay

/-- Request `q` is recorded by the last move of `rs`, at time `since`, and after each move from then
on, up to the end of `ps`, the table has that very entry: nothing has displaced it, purged it, taken
it back or cleared it, since nothing has been recorded under its id in its place. -/
structure HeldSince (r : Relay) (rs ps : List Move) (q : Request) (since : Micros) : Prop where
  later : rs <+: ps
  recorded : ∃ qs m, rs = qs ++ [m] ∧ Trace.recorded ((r.final qs).move m).2 = [q] ∧
    (r.final qs).clock = since
  kept : ∀ ts, rs <+: ts → ts <+: ps →
    (r.final ts).pending.find? q.transactionId = some ⟨q.transactionId, q.requester, since⟩
  alone : ∀ ts m, rs <+: ts → ts ++ [m] <+: ps →
    ∀ q' ∈ Trace.recorded ((r.final ts).move m).2, q'.transactionId ≠ q.transactionId

variable {r : Relay}

/-! ## Every entry is that of one recording -/

/-- An entry is there once its request is recorded. -/
theorem heldSince_of_recorded {ps : List Move} {m : Move} {q : Request}
    (hrecorded : Trace.recorded ((r.final ps).move m).2 = [q])
    (hfind : (r.final (ps ++ [m])).pending.find? q.transactionId =
      some ⟨q.transactionId, q.requester, (r.final ps).clock⟩) :
    r.HeldSince (ps ++ [m]) (ps ++ [m]) q (r.final ps).clock where
  later := List.prefix_refl _
  recorded := ⟨ps, m, rfl, hrecorded, rfl⟩
  kept ts hfrom hto := by
    obtain rfl : ps ++ [m] = ts :=
      hfrom.eq_of_length (Nat.le_antisymm hfrom.length_le hto.length_le)
    exact hfind
  alone ts m' hfrom hto := by
    have hlt := (hfrom.length_le.trans_lt (by simp)).trans_le hto.length_le
    exact absurd hlt (Nat.lt_irrefl _)

/-- An entry that is still there after one more move is held on. -/
theorem HeldSince.snoc {rs ps : List Move} {q : Request} {since : Micros}
    (h : r.HeldSince rs ps q since) {m : Move}
    (hother : ∀ q' ∈ Trace.recorded ((r.final ps).move m).2, q'.transactionId ≠ q.transactionId)
    (hfind : (r.final (ps ++ [m])).pending.find? q.transactionId =
      some ⟨q.transactionId, q.requester, since⟩) : r.HeldSince rs (ps ++ [m]) q since where
  later := h.later.trans (List.prefix_append ps [m])
  recorded := h.recorded
  kept ts hfrom hto := by
    rcases List.prefix_concat_iff.mp hto with rfl | hto
    · exact hfind
    · exact h.kept ts hfrom hto
  alone ts m' hfrom hto := by
    rcases List.prefix_concat_iff.mp hto with heq | hto
    · obtain ⟨rfl, rfl⟩ := List.append_singleton_inj.mp heq
      exact hother
    · exact h.alone ts m' hfrom hto

/-- Every entry has been recorded in the run, and has been there since. -/
theorem exists_heldSince (hr : r.Fresh) {ps : List Move} (honly : OnlyDispatcherRecords ps)
    {id : UInt16} {e : PendingEntry Requester}
    (he : (r.final ps).pending.find? id = some e) :
    ∃ rs q, q.transactionId = id ∧ q.requester = e.value ∧ r.HeldSince rs ps q e.since := by
  induction ps using List.reverseRecOn generalizing e with
  | nil =>
    unfold PendingTable.find? at he
    rw [final_nil, hr.entries] at he
    cases he
  | append_singleton ps m ih =>
    have hbefore : OnlyDispatcherRecords ps := fun n hn => honly n (List.mem_append_left _ hn)
    have hm : m.registers = false := honly m (by simp)
    have hmove : (r.final (ps ++ [m])) = ((r.final ps).move m).1 := final_append r ps [m]
    have hfind := he
    rw [hmove] at he
    cases entry_of_step (step_move (r.final ps) m) hm he with
    | @recorded q now under made =>
      subst under
      subst made
      exact ⟨_, q, rfl, rfl, heldSince_of_recorded now hfind⟩
    | kept other found =>
      obtain ⟨rs, q, rfl, hwho, hheld⟩ := ih hbefore found
      have hentry : e = ⟨q.transactionId, q.requester, e.since⟩ := by
        rw [hwho, ← PendingTable.id_of_find? found]
      exact ⟨rs, q, rfl, hwho, hheld.snoc other (hfind.trans (congrArg some hentry))⟩

/-! ## How many responses, and how many requests -/

/-- How many responses with an id go into the mailbox of a client. -/
def given (es : Trace) (c : Nat) (id : UInt16) : Nat :=
  (es.inboxed c).countP (·.transactionId = id)

/-- How many requests of a client are recorded under an id. -/
def asked (es : Trace) (c : Nat) (id : UInt16) : Nat :=
  es.recorded.countP fun q => q.requester.client = c ∧ q.transactionId = id

/-- How many responses with an id a client can still be given: one if the table has its entry. -/
def owed (r : Relay) (c : Nat) (id : UInt16) : Nat :=
  if (r.pending.find? id).any (·.value.client = c) then 1 else 0

theorem given_append (es es' : Trace) (c : Nat) (id : UInt16) :
    given (es ++ es') c id = given es c id + given es' c id := by
  simp only [given, Trace.inboxed, Trace.routed_append, List.filter_append, List.map_append,
    List.countP_append]

theorem asked_append (es es' : Trace) (c : Nat) (id : UInt16) :
    asked (es ++ es') c id = asked es c id + asked es' c id := by
  rw [asked, Trace.recorded_append, List.countP_append]
  rfl

/-- A client comes to be owed a response only when its request is recorded. -/
theorem owed_of_step {r' : Relay} {m : Move} {es : Trace} (hs : Step r m r' es)
    (honly : m.registers = false) (c : Nat) (id : UInt16) :
    owed r' c id ≤ owed r c id + asked es c id := by
  unfold owed
  cases hfind : r'.pending.find? id with
  | none => exact Nat.zero_le _
  | some e =>
    by_cases hclient : e.value.client = c
    · cases entry_of_step hs honly hfind with
      | @recorded q now under made =>
        have hone : asked es c id = 1 := by
          subst made hclient
          rw [asked, now]
          simp [under]
        simp only [Option.any_some, hclient, decide_true, if_true]
        omega
      | kept other found =>
        rw [found]
        simp only [Option.any_some, hclient, decide_true, if_true]
        omega
    · simp [hclient]

/-- What a move hands over it takes off what is owed. -/
theorem given_of_step {r' : Relay} {m : Move} {es : Trace} (hs : Step r m r' es)
    (honly : m.registers = false) (c : Nat) (id : UInt16) :
    given es c id + owed r' c id ≤ owed r c id + asked es c id := by
  have howed := owed_of_step hs honly c id
  rcases delivery_of_step hs with hrouted | ⟨e, f, input, hrouted, -, -, hfind, hused⟩
  · have hnone : given es c id = 0 := by
      rw [given, Trace.inboxed, hrouted]
      rfl
    omega
  · by_cases hmine : e.value.client = c ∧ f.transactionId = id
    · obtain ⟨rfl, rfl⟩ := hmine
      have hgiven : given es e.value.client f.transactionId = 1 := by
        rw [given, Trace.inboxed, hrouted]
        simp
      have hbefore : owed r e.value.client f.transactionId = 1 := by
        rw [owed, hfind]
        simp
      have hafter : owed r' e.value.client f.transactionId = 0 := by
        rw [owed, hused]
        simp
      omega
    · have hnone : given es c id = 0 := by
        rw [given, Trace.inboxed, hrouted]
        by_cases hclient : e.value.client = c
        · have hid : f.transactionId ≠ id := fun h => hmine ⟨hclient, h⟩
          simp [hclient, hid]
        · simp [hclient]
      omega

theorem given_le_asked (hr : r.Fresh) {all : List Move} (honly : OnlyDispatcherRecords all)
    (c : Nat) (id : UInt16) : given (r.trace all) c id ≤ asked (r.trace all) c id := by
  have hcredit : given (r.trace all) c id + owed (r.final all) c id ≤ asked (r.trace all) c id := by
    refine prefix_induction (r := r)
      (P := fun _ s es => given es c id + owed s c id ≤ asked es c id) ?_ ?_ all
      (List.prefix_refl all)
    · unfold owed PendingTable.find?
      rw [hr.entries]
      exact Nat.le_refl 0
    · intro ps m r' es hm ih hs
      have hstep := given_of_step hs (honly m (hm.subset (by simp))) c id
      rw [given_append, asked_append]
      omega
  exact (Nat.le_add_right _ _).trans hcredit

/-! ## The responses of a run -/

/-- A response that is handed over is the next one that the device has sent, and uses up a request
of its recipient. -/
theorem heldSince_of_routed (hr : r.Fresh) {ps : List Move} (honly : OnlyDispatcherRecords ps)
    {m : Move} {who : Requester} {f : Frame}
    (hrouted : (who, f) ∈ Trace.routed ((r.final ps).move m).2) :
    Trace.routed ((r.final ps).move m).2 = [(who, f)] ∧
      ((r.trace ps).handled ++ [f]).flatMap (·.encode) <+: deviceBytes ps ∧
      (r.final (ps ++ [m])).pending.find? f.transactionId = none ∧
      ∃ rs q since, q.transactionId = f.transactionId ∧ q.requester = who ∧
        r.HeldSince rs ps q since := by
  rcases delivery_of_step (step_move (r.final ps) m) with
    hnone | ⟨e, g, input, hone, hrouting, hnext, hfind, hused⟩
  · rw [hnone] at hrouted
    cases hrouted
  · rw [hone, List.mem_singleton] at hrouted
    cases hrouted
    obtain ⟨rs, q, hid, hwho, hheld⟩ := exists_heldSince hr honly hfind
    obtain ⟨late, hbytes, -⟩ := (reads hr ps).unread hrouting
    rw [(FrameReader.next_eq_frame_iff.mp hnext).1] at hbytes
    have hsent : ((r.trace ps).handled ++ [f]).flatMap (·.encode) <+: deviceBytes ps := by
      rw [← hbytes]
      simp
    exact ⟨hone, hsent, by simpa using hused, rs, q, e.since, hid, hwho, hheld⟩

/-- No request is used up twice. -/
theorem HeldSince.unique {rs ps ps' : List Move} {m : Move} {q q' : Request}
    {since since' : Micros} (h : r.HeldSince rs ps q since) (h' : r.HeldSince rs ps' q' since')
    (hused : (r.final (ps ++ [m])).pending.find? q.transactionId = none) :
    ¬ps ++ [m] <+: ps' := by
  intro hlonger
  obtain ⟨qs, n, rfl, hq, -⟩ := h.recorded
  obtain ⟨qs', n', heq, hq', -⟩ := h'.recorded
  obtain ⟨rfl, rfl⟩ := List.append_singleton_inj.mp heq
  obtain rfl : q = q' := List.singleton_inj.mp (hq.symm.trans hq')
  have hthere := h'.kept (ps ++ [m]) (h.later.trans (List.prefix_append ps [m])) hlonger
  rw [hused] at hthere
  cases hthere

theorem OnlyDispatcherRecords.of_snoc_prefix {ps all : List Move} {m : Move}
    (h : OnlyDispatcherRecords all) (hm : ps ++ [m] <+: all) : OnlyDispatcherRecords ps :=
  fun n hn => h n (hm.subset (List.mem_append_left _ hn))

/-- There is one move after the beginning of a run. -/
theorem eq_of_snoc_prefix {ps all : List Move} {m m' : Move} (h : ps ++ [m] <+: all)
    (h' : ps ++ [m'] <+: all) : m = m' := by
  have hprefix : ps ++ [m] <+: ps ++ [m'] := List.prefix_of_prefix_length_le h h' (by simp)
  have heq : ps ++ [m] = ps ++ [m'] := hprefix.eq_of_length (by simp)
  exact (List.append_singleton_inj.mp heq).2

/-- Of two moves of a run one comes before the other, or they are the same. -/
theorem snoc_prefix_cases {ps ps' all : List Move} {m m' : Move} (h : ps ++ [m] <+: all)
    (h' : ps' ++ [m'] <+: all) : ps ++ [m] <+: ps' ∨ ps' ++ [m'] <+: ps ∨ ps = ps' := by
  have hps : ps <+: all := (List.prefix_append ps [m]).trans h
  have hps' : ps' <+: all := (List.prefix_append ps' [m']).trans h'
  have hlength (qs : List Move) (n : Move) : (qs ++ [n]).length = qs.length + 1 := by simp
  rcases Nat.lt_trichotomy ps.length ps'.length with hlt | heq | hgt
  · exact .inl (List.prefix_of_prefix_length_le h hps' (by rw [hlength]; omega))
  · exact .inr (.inr ((List.prefix_of_prefix_length_le hps hps' heq.le).eq_of_length heq))
  · exact .inr (.inl (List.prefix_of_prefix_length_le h' hps (by rw [hlength]; omega)))

/-- For each move that hands a response over there is one that has recorded a request for it. -/
theorem exists_source (hr : r.Fresh) {all : List Move} (honly : OnlyDispatcherRecords all) :
    ∃ source : List Move → List Move, ∀ ps m who f, ps ++ [m] <+: all →
      (who, f) ∈ Trace.routed ((r.final ps).move m).2 →
      ∃ q since, q.transactionId = f.transactionId ∧ q.requester = who ∧
        r.HeldSince (source ps) ps q since := by
  have hsource (ps : List Move) : ∃ rs, ∀ m who f, ps ++ [m] <+: all →
      (who, f) ∈ Trace.routed ((r.final ps).move m).2 →
      ∃ q since, q.transactionId = f.transactionId ∧ q.requester = who ∧
        r.HeldSince rs ps q since := by
    by_cases hany : ∃ m x, ps ++ [m] <+: all ∧ x ∈ Trace.routed ((r.final ps).move m).2
    · obtain ⟨m, ⟨who, f⟩, hm, hrouted⟩ := hany
      obtain ⟨hone, -, -, rs, q, since, hheld⟩ :=
        heldSince_of_routed hr (honly.of_snoc_prefix hm) hrouted
      refine ⟨rs, fun m' who' f' hm' hrouted' => ⟨q, since, ?_⟩⟩
      obtain rfl : m = m' := eq_of_snoc_prefix hm hm'
      rw [hone, List.mem_singleton] at hrouted'
      cases hrouted'
      exact hheld
    · exact ⟨[], fun m who f hm hrouted => absurd ⟨m, (who, f), hm, hrouted⟩ hany⟩
  choose source hsource using hsource
  exact ⟨source, hsource⟩

/-- **Each response that is handed over uses up a request,** whatever the device sends and whatever
the policy. There is a map `source` from the moves that hand a response over to moves before them,
no two to the same, such that the one move has recorded a request of the client that is given the
response, under the id of the response, and the entry of just that request has been in the table all
the time in between. The response is the next frame of what the device has sent, byte for byte. So a
client is never given more responses with an id than it has had requests recorded under it; and
nothing else ever comes into a mailbox. -/
theorem responses_use_up_requests (hr : r.Fresh) {all : List Move}
    (honly : OnlyDispatcherRecords all) :
    (∃ source : List Move → List Move,
      (∀ ps m who f, ps ++ [m] <+: all → (who, f) ∈ Trace.routed ((r.final ps).move m).2 →
        Trace.routed ((r.final ps).move m).2 = [(who, f)] ∧
        ((r.trace ps).handled ++ [f]).flatMap (·.encode) <+: deviceBytes ps ∧
        ∃ q since, q.transactionId = f.transactionId ∧ q.requester = who ∧
          r.HeldSince (source ps) ps q since) ∧
      ∀ ps m ps' m', ps ++ [m] <+: all → ps' ++ [m'] <+: all →
        Trace.routed ((r.final ps).move m).2 ≠ [] → Trace.routed ((r.final ps').move m').2 ≠ [] →
        source ps = source ps' → ps = ps') ∧
    (∀ c id, given (r.trace all) c id ≤ asked (r.trace all) c id) ∧
    ∀ ps m c, ps ++ [m] <+: all → ∃ left, left <:+ (r.final ps).inbox c ∧
      (r.final (ps ++ [m])).inbox c = left ++ Trace.inboxed ((r.final ps).move m).2 c := by
  obtain ⟨source, hsource⟩ := exists_source hr honly
  -- Had the later of two moves the same source, it would find the entry that the earlier has used.
  have hnot {ps ps' : List Move} {m m' : Move} (hm : ps ++ [m] <+: all)
      (hm' : ps' ++ [m'] <+: all) (hgives : Trace.routed ((r.final ps).move m).2 ≠ [])
      (hgives' : Trace.routed ((r.final ps').move m').2 ≠ []) (hsame : source ps = source ps') :
      ¬ps ++ [m] <+: ps' := by
    obtain ⟨⟨who, f⟩, hrouted⟩ := List.exists_mem_of_ne_nil _ hgives
    obtain ⟨⟨who', f'⟩, hrouted'⟩ := List.exists_mem_of_ne_nil _ hgives'
    obtain ⟨q, since, hid, -, hheld⟩ := hsource ps m who f hm hrouted
    obtain ⟨q', since', -, -, hheld'⟩ := hsource ps' m' who' f' hm' hrouted'
    obtain ⟨-, -, hused, -⟩ := heldSince_of_routed hr (honly.of_snoc_prefix hm) hrouted
    rw [hsame] at hheld
    rw [← hid] at hused
    exact hheld.unique hheld' hused
  refine ⟨⟨source, ?_, ?_⟩, fun c id => given_le_asked hr honly c id, ?_⟩
  · intro ps m who f hm hrouted
    obtain ⟨hone, hsent, -⟩ := heldSince_of_routed hr (honly.of_snoc_prefix hm) hrouted
    exact ⟨hone, hsent, hsource ps m who f hm hrouted⟩
  · intro ps m ps' m' hm hm' hgives hgives' hsame
    rcases snoc_prefix_cases hm hm' with hlonger | hlonger | heq
    · exact absurd hlonger (hnot hm hm' hgives hgives' hsame)
    · exact absurd hlonger (hnot hm' hm hgives' hgives hsame.symm)
    · exact heq
  · intro ps m c _
    rw [final_append]
    exact inbox_move (r.final ps) m c

/-- A relay whose table takes a second request under an id. -/
def overwriting : Relay := ofSettings { duplicatePolicy := .replace }

/-- A client asks twice under one id, and the device sends three responses with the id. -/
def answeredThrice : List Move :=
  [ .input (.serve ⟨.v4 10 0 0 9, 40000⟩), .turn (.begin 0),
    .input (.clientSends 0 [0, 7, 0, 0, 0, 2, 1, 3, 0, 7, 0, 0, 0, 2, 1, 4]),
    .turn (.intake 0), .turn (.intake 0), .input .startDispatcher,
    .turn .take, .turn .record, .turn .write, .turn .take, .turn .record, .turn .write,
    .input (.deviceSends [0, 7, 0, 0, 0, 2, 1, 3, 0, 7, 0, 0, 0, 2, 1, 4, 0, 7, 0, 0, 0, 2, 1, 5]),
    .turn .route, .turn .route, .turn .route ]

/-- The second request has displaced the first, so the client is given one response only. -/
theorem responses_of_answeredThrice :
    overwriting.Fresh ∧ OnlyDispatcherRecords answeredThrice ∧
      (overwriting.trace answeredThrice).handled.length = 3 ∧
      given (overwriting.trace answeredThrice) 0 7 = 1 ∧
      given (overwriting.trace answeredThrice) 0 7 ≤
        asked (overwriting.trace answeredThrice) 0 7 := by
  have hr : overwriting.Fresh := fresh_ofSettings _
  have honly : OnlyDispatcherRecords answeredThrice := by decide
  exact ⟨hr, honly, by decide +kernel, by decide +kernel,
    (responses_use_up_requests hr honly).2.1 0 7⟩

end Relay

end ModbusRelay
