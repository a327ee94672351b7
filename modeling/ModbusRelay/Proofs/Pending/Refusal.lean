import ModbusRelay.Proofs.Pending.History

/-!
What a refusal says, and what it leaves.

An insertion is refused as a duplicate just when the policy rejects and the entry of the id is young
(`insert_eq_duplicate_iff`). For want of room it is refused after a purge, and that a purge drops
nothing then cannot be seen from the insertion alone: it takes a `Bounded` table
(`insert_eq_full_iff`). Every history keeps a new table bounded (`bounded_performAll`), so a refusal
changes nothing in any table that can come about (`refusal_changes_nothing`).
-/

namespace ModbusRelay

namespace PendingTable

variable {α : Type} {t : PendingTable α} {id : UInt16} {value : α} {now : Micros}

/-! ## Tables stay within their capacity -/

theorem Bounded.perform (h : t.Bounded) (op : PendingOp α) : (t.perform op).Bounded := by
  cases op with
  | insert id value now => exact h.insert id value now
  | take id => exact h.take id
  | purge now => exact h.purge now
  | clear => exact .clear t

theorem bounded_performAll (h : t.Bounded) (ops : List (PendingOp α)) :
    (t.performAll ops).Bounded := by
  induction ops using List.reverseRecOn with
  | nil => exact h
  | append_singleton ops op ih =>
    rw [performAll_snoc]
    exact ih.perform op

theorem bounded_empty (policy : DuplicatePolicy) (timeout : Micros) (capacity : Nat) :
    (empty policy timeout capacity : PendingTable α).Bounded := Nat.zero_le _

/-! ## The two refusals -/

theorem insert_eq_duplicate_iff {id' : UInt16} {age : Micros} :
    (t.insert id value now).1 = .error (.duplicate id' age) ↔
      id' = id ∧ t.policy = .reject ∧
        ∃ e, t.find? id = some e ∧ age = e.age now ∧ age < t.timeout := by
  rcases hins : t.insert id value now with ⟨answer, t'⟩
  cases insertion hins with
  | duplicate found policy young =>
    constructor
    · intro h
      cases h
      exact ⟨rfl, policy, _, found, rfl, young⟩
    · rintro ⟨rfl, -, e, he, rfl, -⟩
      rw [found] at he
      cases he
      rfl
  | replaced found loose =>
    refine iff_of_false (by simp) ?_
    rintro ⟨-, policy, e, he, rfl, young⟩
    rw [found] at he
    cases he
    exact loose ⟨policy, young⟩
  | added absent | purged absent | full absent =>
    refine iff_of_false (by simp) ?_
    rintro ⟨-, -, e, he, -⟩
    rw [absent] at he
    cases he

theorem insert_eq_full_iff (hbounded : t.Bounded) {capacity : Nat} :
    (t.insert id value now).1 = .error (.full capacity) ↔
      capacity = t.capacity ∧ t.contains id = false ∧ t.size = t.capacity ∧ t.Young now := by
  rw [contains_eq_false_iff]
  rcases hins : t.insert id value now with ⟨answer, t'⟩
  cases insertion hins with
  | duplicate found | replaced found =>
    refine iff_of_false (by simp) ?_
    rintro ⟨-, absent, -⟩
    rw [absent] at found
    cases found
  | added absent room =>
    refine iff_of_false (by simp) ?_
    rintro ⟨-, -, full, -⟩
    omega
  | purged absent full room =>
    refine iff_of_false (by simp) ?_
    rintro ⟨-, -, -, young⟩
    rw [purge_eq_self young] at room
    omega
  | full absent full young =>
    constructor
    · intro h
      cases h
      exact ⟨rfl, absent, Nat.le_antisymm hbounded full,
        young_of_size_le_purge (Nat.le_trans hbounded young)⟩
    · rintro ⟨rfl, -⟩
      rfl

/-! ## Every table that can come about -/

/-- **A refusal changes nothing.** Take a new table, whatever its settings, after any operations at
any times. An insertion that is refused leaves it as it was, entry by entry, although it may have
purged it. It is refused for want of room just when the id is absent, the table holds as many
entries as it may, and all of them are younger than the timeout; and it is refused as a duplicate
just when the policy rejects and the entry of the id is younger than the timeout. -/
theorem refusal_changes_nothing (policy : DuplicatePolicy) (timeout : Micros) (capacity : Nat)
    (ops : List (PendingOp α)) (id : UInt16) (value : α) (now : Micros) :
    let t := (empty policy timeout capacity : PendingTable α).performAll ops
    let answer := (t.insert id value now).1
    (∀ cause, answer = .error cause → (t.insert id value now).2 = t) ∧
    (∀ room, answer = .error (.full room) ↔
      room = max capacity 1 ∧ t.contains id = false ∧ t.size = max capacity 1 ∧
        ∀ e ∈ t.entries, e.age now < timeout) ∧
    ∀ id' age, answer = .error (.duplicate id' age) ↔
      id' = id ∧ policy = .reject ∧
        ∃ e, t.find? id = some e ∧ age = e.age now ∧ age < timeout := by
  intro t answer
  obtain ⟨hpolicy, htimeout, hcapacity⟩ : t.policy = policy ∧ t.timeout = timeout ∧
      t.capacity = max capacity 1 := (empty policy timeout capacity).settings_performAll ops
  have hbounded : t.Bounded := bounded_performAll (bounded_empty policy timeout capacity) ops
  refine ⟨fun cause h => insert_of_error hbounded h, fun room => ?_, fun id' age => ?_⟩
  · rw [← hcapacity, ← htimeout]
    exact insert_eq_full_iff hbounded
  · rw [← hpolicy, ← htimeout]
    exact insert_eq_duplicate_iff

/-- Room for two. The first entry grows old and gives way, and the clock goes back for the last. -/
def crowded : List (PendingOp Nat) :=
  [.insert 7 1 10, .insert 8 2 20, .insert 9 3 62, .take 9, .insert 9 4 15]

/-- A third id finds the table full of young entries and leaves it alone; a second value for an id
is a duplicate, of age 0 because its entry seems to come from the future. -/
theorem refusals_of_crowded :
    let t := (empty .reject 50 2 : PendingTable Nat).performAll crowded
    (t.insert 7 5 64).1 = .error (.full 2) ∧ (t.insert 7 5 64).2 = t ∧
      t.size = 2 ∧ (∀ e ∈ t.entries, e.age 64 < 50) ∧
      (t.insert 8 5 19).1 = .error (.duplicate 8 0) ∧ (t.insert 8 5 19).2 = t := by
  intro t
  obtain ⟨hsame, hfull, -⟩ := refusal_changes_nothing .reject 50 2 crowded 7 5 64
  obtain ⟨hsame', -, hduplicate⟩ := refusal_changes_nothing .reject 50 2 crowded 8 5 19
  have hroom : (t.insert 7 5 64).1 = .error (.full 2) := by decide
  have hyoung : (t.insert 8 5 19).1 = .error (.duplicate 8 0) :=
    (hduplicate 8 0).mpr ⟨rfl, rfl, ⟨8, 2, 20⟩, by decide, by decide, by decide⟩
  obtain ⟨-, -, hsize, hentries⟩ := (hfull 2).mp hroom
  exact ⟨hroom, hsame _ hroom, hsize, hentries, hyoung, hsame' _ hyoung⟩

end PendingTable

end ModbusRelay
