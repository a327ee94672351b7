import ModbusRelay.Proofs.Pending.Insert

/-!
The entries of the table as a whole: an operation loses none without saying which.

What is erased is the entry of the id (`entries_erase_perm`), and what is purged are the entries
that have reached the timeout (`entries_purge_perm`). An insertion displaces the entry of its id or,
when the table is full, purges (`entries_insert_perm`).
-/

namespace ModbusRelay

namespace PendingTable

variable {α : Type}

/-- The entries that an insertion under an id purges: it does so when the id is absent and the table
is full. -/
def purgedFor (t : PendingTable α) (id : UInt16) (now : Micros) : List (PendingEntry α) :=
  if t.contains id = false ∧ t.capacity ≤ t.size then t.entries.filter (t.expired now) else []

/-- The entry that an insertion displaces. -/
def displacedFor (t : PendingTable α) (id : UInt16) (value : α) (now : Micros) :
    List (PendingEntry α) :=
  match (t.insert id value now).1 with
  | .ok (some _) => (t.find? id).toList
  | _ => []

/-- The entry that an insertion records. -/
def recordedFor (t : PendingTable α) (id : UInt16) (value : α) (now : Micros) :
    List (PendingEntry α) :=
  match (t.insert id value now).1 with
  | .ok _ => [⟨id, value, now⟩]
  | .error _ => []

/-- The entries under an id are the one that is found. -/
theorem filter_id (t : PendingTable α) (id : UInt16) :
    t.entries.filter (·.id == id) = (t.find? id).toList := by
  unfold find?
  have hnodup := t.ids_nodup
  generalize t.entries = es at hnodup ⊢
  induction es with
  | nil => rfl
  | cons e es ih =>
    rw [List.map_cons, List.nodup_cons] at hnodup
    rw [List.filter_cons, List.find?_cons]
    cases he : e.id == id with
    | true =>
      have hnone : es.filter (·.id == id) = [] := by
        rw [List.filter_eq_nil_iff]
        intro e' he' heq
        exact hnodup.1 (List.mem_map.mpr ⟨e', he', (eq_of_beq heq).trans (eq_of_beq he).symm⟩)
      rw [if_pos rfl, hnone]
      rfl
    | false => simpa using ih hnodup.2

theorem entries_erase_perm (t : PendingTable α) (id : UInt16) :
    t.entries.Perm ((t.erase id).entries ++ (t.find? id).toList) := by
  rw [← filter_id]
  have h := (List.filter_append_perm (fun e : PendingEntry α => e.id == id) t.entries).symm
  exact h.trans List.perm_append_comm

theorem entries_take_perm (t : PendingTable α) (id : UInt16) :
    t.entries.Perm ((t.take id).2.entries ++ (t.find? id).toList) := by
  rcases t.take_snd id with h | ⟨h, hnone⟩
  · rw [h]
    exact t.entries_erase_perm id
  · rw [h, hnone]
    simp

theorem entries_purge_perm (t : PendingTable α) (now : Micros) :
    t.entries.Perm ((t.purge now).entries ++ t.entries.filter (t.expired now)) :=
  (List.filter_append_perm (t.expired now) t.entries).symm.trans List.perm_append_comm

/-- A put replaces the entry of the id. -/
theorem entries_put_perm (t : PendingTable α) (e : PendingEntry α) :
    (e :: t.entries).Perm ((t.put e).entries ++ (t.find? e.id).toList) :=
  (t.entries_erase_perm e.id).cons e

/-- What an insertion finds and records is in the table afterwards, or was displaced or purged. -/
theorem entries_insert_perm (t : PendingTable α) (id : UInt16) (value : α) (now : Micros) :
    (t.recordedFor id value now ++ t.entries).Perm
      ((t.insert id value now).2.entries ++
        (t.displacedFor id value now ++ t.purgedFor id now)) := by
  rcases hins : t.insert id value now with ⟨answer, t'⟩
  unfold recordedFor displacedFor purgedFor contains
  rw [hins]
  cases insertion hins with
  | duplicate found =>
    rw [found]
    simp
  | replaced found =>
    have h := t.entries_put_perm ⟨id, value, now⟩
    rw [found] at h ⊢
    simpa using h
  | added absent room =>
    have h := t.entries_put_perm ⟨id, value, now⟩
    rw [absent] at h ⊢
    simpa [Nat.not_le.mpr room] using h
  | purged absent full =>
    have h := (t.purge now).entries_put_perm ⟨id, value, now⟩
    have habsent : (t.purge now).find? id = none := by rw [find?_purge, absent]; rfl
    rw [habsent, Option.toList_none, List.append_nil] at h
    rw [absent]
    have hpurge := (t.entries_purge_perm now).cons ⟨id, value, now⟩
    simpa [full] using hpurge.trans (h.append_right (t.entries.filter (t.expired now)))
  | full absent full =>
    rw [absent]
    simpa [full] using t.entries_purge_perm now

end PendingTable

end ModbusRelay
