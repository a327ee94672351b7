import ModbusRelay.Proofs.Pending.Entries
import ModbusRelay.Proofs.Pending.Refusal

/-!
What an insertion leaves of the other entries.

An insertion touches an entry of another id in one case only: its own id is absent, the table is
full, and the entry has reached the timeout (`mem_entries_insert`). An id that is there already
needs no room, so its insertion touches no other entry even in a full table, and leaves the size as
it is (`size_insert_of_contains`). Which tables have room for a new id takes the bound on the size
that every history keeps (`records_iff_of_absent`).
-/

namespace ModbusRelay

namespace PendingTable

variable {α : Type} {t : PendingTable α} {id : UInt16} {value : α} {now : Micros}
  {e : PendingEntry α}

/-- The entries are those that are found under their ids. -/
theorem mem_entries_iff : e ∈ t.entries ↔ t.find? e.id = some e := by
  have hmem : e ∈ t.entries.filter (·.id == e.id) ↔ e ∈ (t.find? e.id).toList := by
    rw [filter_id]
  simpa [List.mem_filter] using hmem

theorem mem_entries_put (hne : e.id ≠ id) (since : Micros) :
    e ∈ (t.put ⟨id, value, since⟩).entries ↔ e ∈ t.entries := by
  rw [mem_entries_iff, mem_entries_iff, find?_put, if_neg (Ne.symm hne)]

theorem mem_entries_purge : e ∈ (t.purge now).entries ↔ e ∈ t.entries ∧ e.age now < t.timeout := by
  rw [mem_entries_iff, mem_entries_iff, find?_purge_eq_some, Nat.not_le]
  rfl

/-- An entry of another id stays, unless the insertion has to purge and the entry is old. -/
theorem mem_entries_insert (hne : e.id ≠ id) :
    e ∈ (t.insert id value now).2.entries ↔
      e ∈ t.entries ∧ (t.contains id = false → t.capacity ≤ t.size → e.age now < t.timeout) := by
  rcases hins : t.insert id value now with ⟨answer, t'⟩
  rw [contains_eq_false_iff]
  cases insertion hins with
  | duplicate found => simp [found]
  | replaced found => simp [mem_entries_put hne, found]
  | added absent room => simp [mem_entries_put hne, Nat.not_le.mpr room]
  | purged absent full => simp [mem_entries_put hne, mem_entries_purge, absent, full]
  | full absent full => simp [mem_entries_purge, absent, full]

/-- An id that is there already takes no more room. -/
theorem size_insert_of_contains (h : t.contains id = true) :
    (t.insert id value now).2.size = t.size := by
  obtain ⟨old, hold⟩ := contains_iff.mp h
  rcases hins : t.insert id value now with ⟨answer, t'⟩
  cases insertion hins with
  | duplicate => rfl
  | replaced found => exact size_erase found
  | added absent | purged absent | full absent =>
    rw [absent] at hold
    cases hold

/-- A new id is recorded if there is room for it, or if a purge makes room. -/
theorem records_iff_of_absent (hbounded : t.Bounded) (habsent : t.contains id = false) :
    t.Records id value now ↔ t.size < t.capacity ∨ ∃ e ∈ t.entries, t.timeout ≤ e.age now := by
  have hold : (∃ e ∈ t.entries, t.timeout ≤ e.age now) ↔ ¬t.Young now := by
    simp [Young]
  rw [contains_eq_false_iff] at habsent
  unfold Records
  rw [hold]
  rcases hins : t.insert id value now with ⟨answer, t'⟩
  cases insertion hins with
  | duplicate found | replaced found =>
    rw [habsent] at found
    cases found
  | added absent room => exact iff_of_true ⟨_, rfl⟩ (.inl room)
  | purged absent full room =>
    refine iff_of_true ⟨_, rfl⟩ (.inr fun young => ?_)
    rw [purge_eq_self young] at room
    omega
  | full absent full young =>
    refine iff_of_false (by simp) ?_
    rintro (room | hold)
    · omega
    · exact hold (young_of_size_le_purge (Nat.le_trans hbounded young))

/-- **An insertion spares the other entries.** Take a new table, whatever its settings, after any
operations at any times. It holds no more entries than it may. A new id is recorded just when there
is room or an entry has reached the timeout; if the table was full, just the entries that have
reached it are dropped, and otherwise no other entry is touched, however old. The insertion of an id
that is there already touches no other entry, whether the table is full or not, and leaves its
size. -/
theorem insertion_spares_the_others (policy : DuplicatePolicy) (timeout : Micros) (capacity : Nat)
    (ops : List (PendingOp α)) (id : UInt16) (value : α) (now : Micros) :
    let t := (empty policy timeout capacity : PendingTable α).performAll ops
    let t' := (t.insert id value now).2
    t.size ≤ max capacity 1 ∧
    (t.contains id = false →
      (t.Records id value now ↔
        t.size < max capacity 1 ∨ ∃ e ∈ t.entries, timeout ≤ e.age now) ∧
      (t.size = max capacity 1 →
        ∀ e, e.id ≠ id → (e ∈ t'.entries ↔ e ∈ t.entries ∧ e.age now < timeout)) ∧
      (t.size < max capacity 1 → ∀ e, e.id ≠ id → (e ∈ t'.entries ↔ e ∈ t.entries))) ∧
    (t.contains id = true →
      t'.size = t.size ∧ ∀ e, e.id ≠ id → (e ∈ t'.entries ↔ e ∈ t.entries)) := by
  intro t t'
  obtain ⟨-, htimeout, hcapacity⟩ : t.policy = policy ∧ t.timeout = timeout ∧
      t.capacity = max capacity 1 := (empty policy timeout capacity).settings_performAll ops
  have hbounded : t.Bounded := bounded_performAll (bounded_empty policy timeout capacity) ops
  rw [← htimeout, ← hcapacity]
  refine ⟨hbounded, fun habsent => ⟨records_iff_of_absent hbounded habsent, fun hfull e hne => ?_,
    fun hroom e hne => ?_⟩, fun hpresent => ⟨size_insert_of_contains hpresent, fun e hne => ?_⟩⟩
  · rw [mem_entries_insert hne]
    simp [habsent, hfull]
  · rw [mem_entries_insert hne]
    simp [Nat.not_le.mpr hroom]
  · rw [mem_entries_insert hne]
    simp [hpresent]

/-- In the crowded table one entry has grown old at time 66 and makes room for a new id, while the
other stays. An id that is there takes no notice of it. -/
theorem spared_of_crowded :
    let t := (empty .reject 50 2 : PendingTable Nat).performAll crowded
    t.size = 2 ∧ t.contains 7 = false ∧ t.Records 7 5 66 ∧
      ⟨8, 2, 20⟩ ∈ (t.insert 7 5 66).2.entries ∧ ⟨9, 4, 15⟩ ∉ (t.insert 7 5 66).2.entries ∧
      t.contains 8 = true ∧ (t.insert 8 5 75).2.size = 2 ∧
      ⟨9, 4, 15⟩ ∈ (t.insert 8 5 75).2.entries := by
  intro t
  have hsize : t.size = 2 := by decide
  have habsent : t.contains 7 = false := by decide
  have hpresent : t.contains 8 = true := by decide
  obtain ⟨-, hnew, -⟩ := insertion_spares_the_others .reject 50 2 crowded 7 5 66
  obtain ⟨hrecords, hfull, -⟩ := hnew habsent
  obtain ⟨-, -, hold⟩ := insertion_spares_the_others .reject 50 2 crowded 8 5 75
  obtain ⟨hsame, hothers⟩ := hold hpresent
  refine ⟨hsize, habsent, hrecords.mpr (.inr ⟨⟨9, 4, 15⟩, by decide, by decide⟩),
    (hfull hsize _ (by decide)).mpr (by decide), fun hmem => ?_, hpresent, hsame.trans hsize,
    (hothers _ (by decide)).mpr (by decide)⟩
  exact absurd ((hfull hsize _ (by decide)).mp hmem).2 (by decide)

end PendingTable

end ModbusRelay
