import Mathlib.Data.Finset.Card
import Mathlib.Data.List.Induction
import ModbusRelay.Proofs.Pending.Insert

/-!
The table of requests in flight, told by its history.

A history is a list of operations, with times that may go back as well as forward. It `Remembers` a
value under an id when it has an insertion of the value that succeeds, and no later operation
`Ends` the stay of that entry. `find?_perform` says this of one operation, `find?_performAll` of a
whole history: what is found under an id is what the history remembers
(`table_means_its_history`).
-/

namespace ModbusRelay

/-- One operation on the table. -/
inductive PendingOp (α : Type) where
  | insert (id : UInt16) (value : α) (now : Micros)
  | take (id : UInt16)
  | purge (now : Micros)
  | clear
  deriving DecidableEq, Repr

namespace PendingTable

variable {α : Type}

/-- The table after an operation. -/
def perform (t : PendingTable α) : PendingOp α → PendingTable α
  | .insert id value now => (t.insert id value now).2
  | .take id => (t.take id).2
  | .purge now => (t.purgeExpired now).2
  | .clear => t.clear

/-- The table after a list of operations. -/
def performAll (t : PendingTable α) (ops : List (PendingOp α)) : PendingTable α :=
  ops.foldl perform t

/-- The insertion succeeds. -/
def Records (t : PendingTable α) (id : UInt16) (value : α) (now : Micros) : Prop :=
  ∃ displaced, (t.insert id value now).1 = .ok displaced

/-- The operations that end the stay of the entry which was recorded under `id` at time `since`. A
purge does when the entry has reached the timeout; an insertion purges if its id is absent and the
table is full. -/
inductive Ends (t : PendingTable α) (id : UInt16) (since : Micros) : PendingOp α → Prop where
  | displaced {value : α} {now : Micros} (records : t.Records id value now) :
      Ends t id since (.insert id value now)
  | purgedFor {other : UInt16} {value : α} {now : Micros} (absent : t.contains other = false)
      (full : t.capacity ≤ t.size) (expired : t.timeout ≤ now - since) :
      Ends t id since (.insert other value now)
  | taken : Ends t id since (.take id)
  | purged {now : Micros} (expired : t.timeout ≤ now - since) : Ends t id since (.purge now)
  | cleared : Ends t id since .clear

/-- In a history the value was recorded under the id, at time `since`, and nothing has ended its
stay. -/
def Remembers (t : PendingTable α) (ops : List (PendingOp α)) (id : UInt16) (value : α)
    (since : Micros) : Prop :=
  ∃ before after, ops = before ++ .insert id value since :: after ∧
    (t.performAll before).Records id value since ∧
    ∀ middle op rest, after = middle ++ op :: rest →
      ¬(t.performAll (before ++ .insert id value since :: middle)).Ends id since op

variable {t : PendingTable α} {id : UInt16} {e : PendingEntry α}

@[simp]
theorem performAll_nil (t : PendingTable α) : t.performAll [] = t := rfl

@[simp]
theorem performAll_snoc (t : PendingTable α) (ops : List (PendingOp α)) (op : PendingOp α) :
    t.performAll (ops ++ [op]) = (t.performAll ops).perform op := by
  simp [performAll]

/-! ## The settings -/

/-- No operation changes the settings of the table. -/
theorem settings_perform (t : PendingTable α) (op : PendingOp α) :
    (t.perform op).policy = t.policy ∧ (t.perform op).timeout = t.timeout ∧
      (t.perform op).capacity = t.capacity := by
  cases op with
  | insert id value now => simp [perform]
  | take id => simp [perform]
  | purge now => exact ⟨rfl, rfl, rfl⟩
  | clear => exact ⟨rfl, rfl, rfl⟩

theorem settings_performAll (t : PendingTable α) (ops : List (PendingOp α)) :
    (t.performAll ops).policy = t.policy ∧ (t.performAll ops).timeout = t.timeout ∧
      (t.performAll ops).capacity = t.capacity := by
  induction ops using List.reverseRecOn with
  | nil => exact ⟨rfl, rfl, rfl⟩
  | append_singleton ops op ih =>
    rw [performAll_snoc]
    obtain ⟨hpolicy, htimeout, hcapacity⟩ := (t.performAll ops).settings_perform op
    exact ⟨hpolicy.trans ih.1, htimeout.trans ih.2.1, hcapacity.trans ih.2.2⟩

/-! ## One operation -/

/-- What a purge leaves under an id. -/
theorem find?_purge_eq_some {now : Micros} :
    (t.purge now).find? id = some e ↔ t.find? id = some e ∧ ¬t.timeout ≤ now - e.since := by
  rw [find?_purge, Option.filter_eq_some_iff, Bool.not_eq_true']
  exact and_congr_right fun _ => decide_eq_false_iff_not

theorem contains_eq_false_iff : t.contains id = false ↔ t.find? id = none := by
  simp [contains]

/-- What is found after an insertion: what it has recorded, or what was there and has not come to
its end. -/
theorem find?_perform_insert {other : UInt16} {value : α} {now : Micros} :
    (t.perform (.insert other value now)).find? id = some e ↔
      (e = ⟨other, value, now⟩ ∧ other = id ∧ t.Records other value now) ∨
        (t.find? id = some e ∧ ¬t.Ends id e.since (.insert other value now)) := by
  rcases hins : t.insert other value now with ⟨answer, t'⟩
  have hrecords : t.Records other value now ↔ ∃ displaced, answer = .ok displaced := by
    unfold Records
    rw [hins]
  have hends : t.Ends id e.since (.insert other value now) ↔
      (other = id ∧ t.Records other value now) ∨
        (t.find? other = none ∧ t.capacity ≤ t.size ∧ t.timeout ≤ now - e.since) := by
    constructor
    · intro h
      cases h with
      | displaced records => exact .inl ⟨rfl, records⟩
      | purgedFor absent full expired =>
        exact .inr ⟨contains_eq_false_iff.mp absent, full, expired⟩
    · rintro (⟨rfl, records⟩ | ⟨absent, full, expired⟩)
      · exact .displaced records
      · exact .purgedFor (contains_eq_false_iff.mpr absent) full expired
  have hperform : t.perform (.insert other value now) = t' := by
    rw [perform, hins]
  rw [hperform, hends, hrecords]
  cases insertion hins with
  | duplicate found => simp [found]
  | replaced found =>
    by_cases hid : other = id <;> simp [hid, found, eq_comm]
  | added absent room =>
    have hroom : ¬t.capacity ≤ t.size := Nat.not_le.mpr room
    by_cases hid : other = id <;> simp [hid, hroom, eq_comm]
  | purged absent full =>
    by_cases hid : other = id
    · subst hid
      simp [absent, eq_comm]
    · rw [find?_put, if_neg hid, find?_purge_eq_some]
      simp [hid, absent, full]
  | full absent full =>
    rw [find?_purge_eq_some]
    by_cases hid : other = id
    · subst hid
      simp [absent]
    · simp [absent, full]

/-- What is found after an operation: what it has recorded, or what was there and has not come to
its end. -/
theorem find?_perform {op : PendingOp α} :
    (t.perform op).find? id = some e ↔
      (e.id = id ∧ op = .insert id e.value e.since ∧ t.Records id e.value e.since) ∨
        (t.find? id = some e ∧ ¬t.Ends id e.since op) := by
  cases op with
  | insert other value now =>
    rw [find?_perform_insert]
    refine or_congr_left ?_
    constructor
    · rintro ⟨rfl, rfl, records⟩
      exact ⟨rfl, rfl, records⟩
    · rintro ⟨hid, heq, records⟩
      cases heq
      exact ⟨by rw [← hid], rfl, records⟩
  | take other =>
    have hends : t.Ends id e.since (.take other) ↔ other = id := by
      constructor
      · intro h
        cases h
        rfl
      · rintro rfl
        exact .taken
    rw [hends, perform, find?_take]
    by_cases hid : other = id <;> simp [hid]
  | purge now =>
    have hends : t.Ends id e.since (.purge now) ↔ t.timeout ≤ now - e.since := by
      constructor
      · intro h
        cases h with
        | purged expired => exact expired
      · exact .purged
    rw [hends]
    show (t.purge now).find? id = some e ↔ _
    rw [find?_purge_eq_some]
    simp
  | clear => simp [perform, Ends.cleared]

/-! ## The whole history -/

/-- A history remembers what its last operation has recorded, and what it remembered before if the
last operation has not ended that. -/
theorem remembers_snoc {ops : List (PendingOp α)} {op : PendingOp α} {value : α} {since : Micros} :
    t.Remembers (ops ++ [op]) id value since ↔
      (op = .insert id value since ∧ (t.performAll ops).Records id value since) ∨
        (t.Remembers ops id value since ∧ ¬(t.performAll ops).Ends id since op) := by
  constructor
  · rintro ⟨before, after, heq, records, stays⟩
    rcases List.eq_nil_or_concat after with rfl | ⟨after, last, rfl⟩
    · obtain ⟨rfl, rfl⟩ := List.append_singleton_inj.mp heq
      exact .inl ⟨rfl, records⟩
    · obtain ⟨rfl, rfl⟩ : ops = before ++ .insert id value since :: after ∧ op = last := by
        refine List.append_singleton_inj.mp ?_
        simpa using heq
      refine .inr ⟨⟨before, after, rfl, records, fun middle op' rest h => ?_⟩, ?_⟩
      · exact stays middle op' (rest ++ [op]) (by simp [h])
      · exact stays after op [] (by simp)
  · rintro (⟨rfl, records⟩ | ⟨⟨before, after, rfl, records, stays⟩, last⟩)
    · exact ⟨ops, [], rfl, records, fun middle op rest h => by simp at h⟩
    · refine ⟨before, after ++ [op], by simp, records, fun middle op' rest h => ?_⟩
      rcases List.eq_nil_or_concat rest with rfl | ⟨rest, x, rfl⟩
      · obtain ⟨rfl, rfl⟩ := List.append_singleton_inj.mp h
        exact last
      · obtain ⟨rfl, -⟩ : after = middle ++ op' :: rest ∧ op = x := by
          refine List.append_singleton_inj.mp ?_
          simpa using h
        exact stays middle op' rest rfl

/-- In a table that was empty, what is found under an id is what the history remembers. -/
theorem find?_performAll (hempty : t.entries = []) (ops : List (PendingOp α)) :
    (t.performAll ops).find? id = some e ↔ e.id = id ∧ t.Remembers ops id e.value e.since := by
  induction ops using List.reverseRecOn with
  | nil =>
    have hnone : t.find? id = none := by
      unfold find?
      rw [hempty]
      rfl
    simp [hnone, Remembers]
  | append_singleton ops op ih =>
    rw [performAll_snoc, find?_perform, ih, remembers_snoc, and_or_left]
    simp only [and_assoc]

theorem contains_iff : t.contains id = true ↔ ∃ e, t.find? id = some e := by
  rw [contains, Option.isSome_iff_exists]

theorem mem_ids_iff : id ∈ t.ids ↔ t.contains id = true := by
  simp [ids, contains, find?, List.find?_isSome]

/-- What an insertion displaces is what a take of the id would have given. -/
theorem displaced_eq_take {value : α} {now : Micros} {displaced : Option α}
    (h : (t.insert id value now).1 = .ok displaced) : displaced = (t.take id).1 := by
  rcases hins : t.insert id value now with ⟨answer, t'⟩
  rw [hins] at h
  subst h
  rw [take_fst]
  cases insertion hins with
  | replaced found => rw [found]; rfl
  | added absent | purged absent => rw [absent]; rfl

/-- **The table means its history.** Whatever the settings, and whatever has been done to a new
table at whatever times: a take of an id gives just the value that the history remembers under it,
the table contains just the ids under which something is remembered and is as large as there are
such ids, and an insertion that succeeds displaces just what a take would have given. -/
theorem table_means_its_history (policy : DuplicatePolicy) (timeout : Micros) (capacity : Nat)
    (ops : List (PendingOp α)) :
    let new : PendingTable α := empty policy timeout capacity
    let t := new.performAll ops
    (t.policy = policy ∧ t.timeout = timeout ∧ t.capacity = max capacity 1) ∧
    (∀ id value, (t.take id).1 = some value ↔ ∃ since, new.Remembers ops id value since) ∧
    (∀ id, t.contains id = true ↔ ∃ value since, new.Remembers ops id value since) ∧
    (∃ ids : Finset UInt16,
      (∀ id, id ∈ ids ↔ ∃ value since, new.Remembers ops id value since) ∧
        t.size = ids.card) ∧
    ∀ id value now displaced, (t.insert id value now).1 = .ok displaced →
      displaced = (t.take id).1 := by
  intro new t
  have hfind (id : UInt16) (e : PendingEntry α) :
      t.find? id = some e ↔ e.id = id ∧ new.Remembers ops id e.value e.since :=
    find?_performAll rfl ops
  have hcontains (id : UInt16) :
      t.contains id = true ↔ ∃ value since, new.Remembers ops id value since := by
    rw [contains_iff]
    constructor
    · rintro ⟨e, he⟩
      exact ⟨e.value, e.since, ((hfind id e).mp he).2⟩
    · rintro ⟨value, since, h⟩
      exact ⟨⟨id, value, since⟩, (hfind id _).mpr ⟨rfl, h⟩⟩
  refine ⟨new.settings_performAll ops, fun id value => ?_, hcontains, ⟨t.ids.toFinset, fun id => ?_,
    ?_⟩, fun id value now displaced h => displaced_eq_take h⟩
  · rw [take_fst, Option.map_eq_some_iff]
    constructor
    · rintro ⟨e, he, rfl⟩
      exact ⟨e.since, ((hfind id e).mp he).2⟩
    · rintro ⟨since, h⟩
      exact ⟨⟨id, value, since⟩, (hfind id _).mpr ⟨rfl, h⟩, rfl⟩
  · rw [List.mem_toFinset, mem_ids_iff, hcontains]
  · rw [ids, List.toFinset_card_of_nodup t.ids_nodup, List.length_map]
    rfl

/-- With room for two, a third id purges the first, the clock goes back, and a second value for an
id that is still young is refused. -/
def backAndForth : List (PendingOp Nat) :=
  [.insert 7 1 10, .insert 8 2 20, .insert 9 3 62, .purge 5, .insert 8 4 65]

/-- The id that was refused is still remembered with its first value, which a later insertion
displaces; the one that was purged is forgotten. -/
theorem displaced_of_backAndForth :
    let new : PendingTable Nat := empty .reject 50 2
    let t := new.performAll backAndForth
    (t.insert 8 5 75).1 = .ok (some 2) ∧ (t.take 8).1 = some 2 ∧
      (∃ since, new.Remembers backAndForth 8 2 since) ∧
      ¬∃ value since, new.Remembers backAndForth 7 value since := by
  intro new t
  obtain ⟨-, htake, hcontains, -, hdisplaced⟩ :=
    table_means_its_history .reject 50 2 backAndForth
  have hinsert : (t.insert 8 5 75).1 = .ok (some 2) := by decide
  have hsecond : (t.take 8).1 = some 2 := (hdisplaced 8 5 75 (some 2) hinsert).symm
  have hfirst : t.contains 7 = false := by decide
  refine ⟨hinsert, hsecond, (htake 8 2).mp hsecond, fun h => ?_⟩
  rw [← hcontains 7, show (PendingTable.performAll _ _).contains 7 = false from hfirst] at h
  cases h

end PendingTable

end ModbusRelay
