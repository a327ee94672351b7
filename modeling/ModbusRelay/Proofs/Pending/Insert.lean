import ModbusRelay.Pending.Table

/-!
What an insertion does to the table of requests in flight.

`insertion` says once which five things an insertion can come to; everything else about `insert` is
read off it. A table is `Bounded` when it holds no more entries than its capacity. Every operation
keeps that, and in a bounded table a refusal changes nothing (`insert_of_error`): an insertion that
finds the table full purges it, but had that dropped an entry there would be room.
-/

namespace ModbusRelay

namespace PendingTable

variable {α : Type}

/-- What an insertion can come to: its answer and the table afterwards. -/
inductive Insertion (t : PendingTable α) (id : UInt16) (value : α) (now : Micros) :
    Except PendingError (Option α) → PendingTable α → Prop where
  | duplicate {old : PendingEntry α} (found : t.find? id = some old)
      (policy : t.policy = .reject) (young : old.age now < t.timeout) :
      Insertion t id value now (.error (.duplicate id (old.age now))) t
  | replaced {old : PendingEntry α} (found : t.find? id = some old)
      (loose : ¬(t.policy = .reject ∧ old.age now < t.timeout)) :
      Insertion t id value now (.ok (some old.value)) (t.put ⟨id, value, now⟩)
  | added (absent : t.find? id = none) (room : t.size < t.capacity) :
      Insertion t id value now (.ok none) (t.put ⟨id, value, now⟩)
  | purged (absent : t.find? id = none) (full : t.capacity ≤ t.size)
      (room : (t.purge now).size < t.capacity) :
      Insertion t id value now (.ok none) ((t.purge now).put ⟨id, value, now⟩)
  | full (absent : t.find? id = none) (full : t.capacity ≤ t.size)
      (young : t.capacity ≤ (t.purge now).size) :
      Insertion t id value now (.error (.full t.capacity)) (t.purge now)

theorem insertion {t t' : PendingTable α} {id : UInt16} {value : α} {now : Micros}
    {answer : Except PendingError (Option α)} (h : t.insert id value now = (answer, t')) :
    t.Insertion id value now answer t' := by
  obtain rfl : (t.insert id value now).1 = answer := congrArg Prod.fst h
  obtain rfl : (t.insert id value now).2 = t' := congrArg Prod.snd h
  unfold insert
  cases h : t.find? id with
  | some old =>
    dsimp only
    split
    · next hold => exact .duplicate h hold.1 hold.2
    · next hold => exact .replaced h hold
  | none =>
    dsimp only
    split
    · next hroom => exact .added h hroom
    · next hfull =>
      split
      · next hroom => exact .purged h (Nat.le_of_not_lt hfull) hroom
      · next hroom => exact .full h (Nat.le_of_not_lt hfull) (Nat.le_of_not_lt hroom)

/-! ## The settings of a table never change -/

@[simp]
theorem policy_insert (t : PendingTable α) (id : UInt16) (value : α) (now : Micros) :
    (t.insert id value now).2.policy = t.policy := by
  rcases h : t.insert id value now with ⟨answer, t'⟩
  cases insertion h <;> rfl

@[simp]
theorem timeout_insert (t : PendingTable α) (id : UInt16) (value : α) (now : Micros) :
    (t.insert id value now).2.timeout = t.timeout := by
  rcases h : t.insert id value now with ⟨answer, t'⟩
  cases insertion h <;> rfl

@[simp]
theorem capacity_insert (t : PendingTable α) (id : UInt16) (value : α) (now : Micros) :
    (t.insert id value now).2.capacity = t.capacity := by
  rcases h : t.insert id value now with ⟨answer, t'⟩
  cases insertion h <;> rfl

theorem take_snd (t : PendingTable α) (id : UInt16) :
    (t.take id).2 = t.erase id ∨ (t.take id).2 = t ∧ t.find? id = none := by
  unfold take
  cases h : t.find? id with
  | none => exact .inr ⟨rfl, rfl⟩
  | some e => exact .inl rfl

@[simp]
theorem policy_take (t : PendingTable α) (id : UInt16) : (t.take id).2.policy = t.policy := by
  rcases t.take_snd id with h | ⟨h, _⟩ <;> rw [h]
  rfl

@[simp]
theorem timeout_take (t : PendingTable α) (id : UInt16) : (t.take id).2.timeout = t.timeout := by
  rcases t.take_snd id with h | ⟨h, _⟩ <;> rw [h]
  rfl

@[simp]
theorem capacity_take (t : PendingTable α) (id : UInt16) :
    (t.take id).2.capacity = t.capacity := by
  rcases t.take_snd id with h | ⟨h, _⟩ <;> rw [h]
  rfl

/-! ## The view after an operation -/

theorem find?_of_find?_purge {t : PendingTable α} {now : Micros} {id : UInt16}
    {e : PendingEntry α} (h : (t.purge now).find? id = some e) : t.find? id = some e := by
  rw [find?_purge] at h
  exact (Option.filter_eq_some_iff.mp h).1

/-- A recorded value is found under its id. -/
theorem find?_insert_self {t : PendingTable α} {id : UInt16} {value : α} {now : Micros}
    {answer : Option α} (h : (t.insert id value now).1 = .ok answer) :
    (t.insert id value now).2.find? id = some ⟨id, value, now⟩ := by
  rcases hins : t.insert id value now with ⟨answer', t'⟩
  rw [hins] at h
  subst h
  cases insertion hins <;> simp

/-- What another id finds after an insertion it has found before. -/
theorem find?_of_find?_insert {t : PendingTable α} {id other : UInt16} {value : α} {now : Micros}
    {e : PendingEntry α} (hne : id ≠ other)
    (h : (t.insert id value now).2.find? other = some e) : t.find? other = some e := by
  rcases hins : t.insert id value now with ⟨answer, t'⟩
  rw [hins] at h
  cases insertion hins with
  | duplicate => exact h
  | replaced => simpa [hne] using h
  | added => simpa [hne] using h
  | purged =>
    rw [find?_put, if_neg hne] at h
    exact find?_of_find?_purge h
  | full => exact find?_of_find?_purge h

/-- A refused value leaves nothing behind under its id that was not there before. -/
theorem find?_of_find?_insert_error {t : PendingTable α} {id other : UInt16} {value : α}
    {now : Micros} {cause : PendingError} {e : PendingEntry α}
    (herr : (t.insert id value now).1 = .error cause)
    (h : (t.insert id value now).2.find? other = some e) : t.find? other = some e := by
  rcases hins : t.insert id value now with ⟨answer, t'⟩
  rw [hins] at h herr
  subst herr
  cases insertion hins with
  | duplicate => exact h
  | full => exact find?_of_find?_purge h

@[simp]
theorem find?_take (t : PendingTable α) (id other : UInt16) :
    (t.take id).2.find? other = if id = other then none else t.find? other := by
  rcases t.take_snd id with h | ⟨h, hnone⟩
  · rw [h, find?_erase]
  · rw [h]
    split
    · next heq => rw [← heq, hnone]
    · rfl

theorem take_fst (t : PendingTable α) (id : UInt16) :
    (t.take id).1 = (t.find? id).map (·.value) := by
  unfold take
  cases t.find? id <;> rfl

/-! ## Young entries -/

/-- No entry has reached the timeout. -/
def Young (t : PendingTable α) (now : Micros) : Prop := ∀ e ∈ t.entries, e.age now < t.timeout

instance (t : PendingTable α) (now : Micros) : Decidable (t.Young now) :=
  inferInstanceAs (Decidable (∀ e ∈ t.entries, e.age now < t.timeout))

theorem keep_eq_self {t : PendingTable α} {test : PendingEntry α → Bool}
    (h : ∀ e ∈ t.entries, test e) : t.keep test = t := by
  have hentries : t.entries.filter test = t.entries := List.filter_eq_self.mpr h
  cases t
  simp only [keep] at hentries ⊢
  simp only [hentries]

/-- A purge of young entries drops none. -/
theorem purge_eq_self {t : PendingTable α} {now : Micros} (h : t.Young now) : t.purge now = t := by
  refine keep_eq_self fun e he => ?_
  have := h e he
  simp [expired]
  omega

/-- A purge that drops nothing finds young entries only. -/
theorem young_of_size_le_purge {t : PendingTable α} {now : Micros}
    (h : t.size ≤ (t.purge now).size) : t.Young now := by
  have hlength : (t.entries.filter (!t.expired now ·)).length = t.entries.length :=
    Nat.le_antisymm (List.length_filter_le _ _) h
  intro e he
  have hkept := List.length_filter_eq_length_iff.mp hlength e he
  simpa [expired] using hkept

theorem mem_entries_of_find? {t : PendingTable α} {id : UInt16} {e : PendingEntry α}
    (h : t.find? id = some e) : e ∈ t.entries := List.mem_of_find?_eq_some h

/-- Under the policy that rejects, an insertion among young entries either adds an entry under a
new id or changes nothing. -/
theorem insert_of_young {t : PendingTable α} {id : UInt16} {value : α} {now : Micros}
    (hpolicy : t.policy = .reject) (hyoung : t.Young now) :
    (t.insert id value now).1 = .ok none ∧ t.find? id = none ∧
        (t.insert id value now).2 = t.put ⟨id, value, now⟩ ∨
      (∃ cause, (t.insert id value now).1 = .error cause) ∧ (t.insert id value now).2 = t := by
  rcases hins : t.insert id value now with ⟨answer, t'⟩
  cases insertion hins with
  | duplicate => exact .inr ⟨⟨_, rfl⟩, rfl⟩
  | replaced found loose =>
    exact absurd ⟨hpolicy, hyoung _ (mem_entries_of_find? found)⟩ loose
  | added absent room => exact .inl ⟨rfl, absent, rfl⟩
  | purged absent full room =>
    rw [purge_eq_self hyoung] at room
    omega
  | full absent full young => exact .inr ⟨⟨_, rfl⟩, purge_eq_self hyoung⟩

/-! ## The capacity -/

/-- The table holds no more entries than it may. -/
def Bounded (t : PendingTable α) : Prop := t.size ≤ t.capacity

theorem size_keep_le (t : PendingTable α) (test : PendingEntry α → Bool) :
    (t.keep test).size ≤ t.size := List.length_filter_le _ _

/-- One entry goes with the id. -/
theorem size_erase {t : PendingTable α} {id : UInt16} {e : PendingEntry α}
    (h : t.find? id = some e) : (t.erase id).size + 1 = t.size := by
  have hmem : id ∈ t.ids :=
    List.mem_map.mpr ⟨e, mem_entries_of_find? h, id_of_find? h⟩
  have hids : (t.erase id).ids = t.ids.erase id := by
    rw [ids, ids, List.Nodup.erase_eq_filter t.ids_nodup]
    simp [erase, keep, List.filter_map, Function.comp_def]
  have hlen := List.length_erase_of_mem hmem
  rw [← hids] at hlen
  have hpos : 0 < t.ids.length := List.length_pos_of_mem hmem
  simp only [ids, List.length_map] at hlen hpos
  unfold size
  omega

theorem Bounded.erase {t : PendingTable α} (h : t.Bounded) (id : UInt16) : (t.erase id).Bounded :=
  Nat.le_trans (t.size_keep_le _) h

theorem Bounded.purge {t : PendingTable α} (h : t.Bounded) (now : Micros) : (t.purge now).Bounded :=
  Nat.le_trans (t.size_keep_le _) h

theorem Bounded.take {t : PendingTable α} (h : t.Bounded) (id : UInt16) :
    (t.take id).2.Bounded := by
  rcases t.take_snd id with htake | ⟨htake, _⟩
  · rw [htake]
    exact h.erase id
  · rw [htake]
    exact h

theorem Bounded.clear (t : PendingTable α) : t.clear.Bounded := Nat.zero_le _

/-- An entry under a new id fits in where there is room. -/
theorem bounded_put_of_lt {t : PendingTable α} (e : PendingEntry α) (h : t.size < t.capacity) :
    (t.put e).Bounded := by
  have := t.size_keep_le (·.id != e.id)
  show (t.erase e.id).size + 1 ≤ t.capacity
  unfold PendingTable.erase
  omega

theorem Bounded.insert {t : PendingTable α} (h : t.Bounded) (id : UInt16) (value : α)
    (now : Micros) : (t.insert id value now).2.Bounded := by
  rcases hins : t.insert id value now with ⟨answer, t'⟩
  cases insertion hins with
  | duplicate => exact h
  | replaced found loose =>
    show (t.erase id).size + 1 ≤ t.capacity
    rw [size_erase found]
    exact h
  | added absent room => exact bounded_put_of_lt _ room
  | purged absent full room => exact bounded_put_of_lt _ room
  | full => exact h.purge now

/-- In a bounded table a refusal changes nothing. -/
theorem insert_of_error {t : PendingTable α} (h : t.Bounded) {id : UInt16} {value : α}
    {now : Micros} {cause : PendingError} (herr : (t.insert id value now).1 = .error cause) :
    (t.insert id value now).2 = t := by
  rcases hins : t.insert id value now with ⟨answer, t'⟩
  rw [hins] at herr
  subst herr
  cases insertion hins with
  | duplicate => rfl
  | full absent full young =>
    -- A purge that dropped an entry would have made room.
    exact purge_eq_self (young_of_size_le_purge (Nat.le_trans h young))

end PendingTable

end ModbusRelay
