import ModbusRelay.Pending.Policy

/-!
The table of requests in flight: for each transaction id at most one entry, which says who waits
for the answer and since when. Times are microseconds; the caller brings the clock, and an entry
from the future has age 0.

The table holds at most `capacity` entries. A new id that finds it full first drops the entries
that have reached the timeout. `find?` is the view through which the operations are described.
-/

namespace ModbusRelay

/-- A point in time or a span, in microseconds. -/
abbrev Micros := Nat

/-- Why a request is not recorded. -/
inductive PendingError where
  | duplicate (id : UInt16) (age : Micros)
  | full (capacity : Nat)
  deriving DecidableEq, Repr

namespace PendingError

/-- The wording of a refusal; an age is given in whole milliseconds. -/
def message : PendingError → String
  | .duplicate id age =>
    "transaction " ++ toString id.toNat ++ " already pending for " ++ toString (age / 1000) ++ " ms"
  | .full capacity => "pending request table full (" ++ toString capacity ++ " entries)"

end PendingError

/-- A request in flight: who waits for the answer, and since when. -/
structure PendingEntry (α : Type) where
  id : UInt16
  value : α
  since : Micros
  deriving DecidableEq, Repr

namespace PendingEntry

variable {α : Type}

/-- How long the entry has waited. -/
def age (e : PendingEntry α) (now : Micros) : Micros := now - e.since

end PendingEntry

/-- The requests in flight, each transaction id at most once. -/
structure PendingTable (α : Type) where
  policy : DuplicatePolicy
  timeout : Micros
  capacity : Nat
  entries : List (PendingEntry α) := []
  ids_nodup : (entries.map (·.id)).Nodup := by simp
  deriving DecidableEq

namespace PendingTable

variable {α : Type}

/-- A new table; it has room for at least one entry. -/
def empty (policy : DuplicatePolicy) (timeout : Micros) (capacity : Nat) : PendingTable α :=
  { policy, timeout, capacity := max capacity 1 }

/-- The entry of an id. -/
def find? (t : PendingTable α) (id : UInt16) : Option (PendingEntry α) :=
  t.entries.find? (·.id == id)

/-- Is a request with this id in flight? -/
def contains (t : PendingTable α) (id : UInt16) : Bool := (t.find? id).isSome

/-- The number of requests in flight. -/
def size (t : PendingTable α) : Nat := t.entries.length

/-- The ids in flight, the latest first. -/
def ids (t : PendingTable α) : List UInt16 := t.entries.map (·.id)

/-- Keeps the entries that satisfy a test. -/
def keep (t : PendingTable α) (test : PendingEntry α → Bool) : PendingTable α :=
  { t with
    entries := t.entries.filter test
    ids_nodup := t.ids_nodup.sublist (List.filter_sublist.map _) }

/-- The table without an id. -/
def erase (t : PendingTable α) (id : UInt16) : PendingTable α := t.keep (·.id != id)

/-- Has the entry reached the timeout? -/
def expired (t : PendingTable α) (now : Micros) (e : PendingEntry α) : Bool :=
  t.timeout ≤ e.age now

/-- Drops the entries that have reached the timeout. -/
def purge (t : PendingTable α) (now : Micros) : PendingTable α := t.keep (!t.expired now ·)

/-- An entry in place of the one of its id leaves the ids distinct. -/
theorem ids_nodup_cons_erase (t : PendingTable α) (e : PendingEntry α) :
    ((e :: (t.erase e.id).entries).map (·.id)).Nodup := by
  simp only [List.map_cons, List.nodup_cons]
  refine ⟨?_, (t.erase e.id).ids_nodup⟩
  simp [erase, keep]

/-- The table with an entry, in place of any other of its id. -/
def put (t : PendingTable α) (e : PendingEntry α) : PendingTable α :=
  { t with
    entries := e :: (t.erase e.id).entries
    ids_nodup := t.ids_nodup_cons_erase e }

/-! What the four changes above do to the view. -/

/-- With distinct ids, filtering and finding may be exchanged. -/
theorem find?_filter_of_nodup (id : UInt16) (test : PendingEntry α → Bool) :
    ∀ {es : List (PendingEntry α)}, (es.map (·.id)).Nodup →
      (es.filter test).find? (·.id == id) = (es.find? (·.id == id)).filter test
  | [], _ => rfl
  | e :: es, h => by
    rw [List.map_cons, List.nodup_cons] at h
    have ih := find?_filter_of_nodup id test h.2
    by_cases he : e.id = id
    · have hes : es.find? (·.id == id) = none := by
        rw [List.find?_eq_none]
        intro e' he' heq
        exact h.1 (List.mem_map.mpr ⟨e', he', by rw [he]; exact eq_of_beq heq⟩)
      rw [hes] at ih
      by_cases ht : test e
      · rw [List.filter_cons_of_pos ht, List.find?_cons_of_pos (by simp [he]),
          List.find?_cons_of_pos (by simp [he])]
        simp [Option.filter, ht]
      · rw [List.filter_cons_of_neg ht, ih, List.find?_cons_of_pos (by simp [he])]
        simp [Option.filter, ht]
    · by_cases ht : test e <;> simp_all

/-- Of the entries that are kept, an id finds its own. -/
theorem find?_keep (t : PendingTable α) (test : PendingEntry α → Bool) (id : UInt16) :
    (t.keep test).find? id = (t.find? id).filter test :=
  find?_filter_of_nodup id test t.ids_nodup

/-- An entry is found under its id. -/
theorem id_of_find? {t : PendingTable α} {id : UInt16} {e : PendingEntry α}
    (h : t.find? id = some e) : e.id = id := by
  unfold find? at h
  have := List.find?_some h
  exact eq_of_beq this

/-- Erasing an id touches no other. -/
@[simp]
theorem find?_erase (t : PendingTable α) (a b : UInt16) :
    (t.erase a).find? b = if a = b then none else t.find? b := by
  rw [erase, find?_keep]
  cases h : t.find? b with
  | none => simp
  | some e =>
    have he := id_of_find? h
    by_cases hab : a = b
    · simp [he, hab]
    · simp [he, hab, Ne.symm hab]

/-- The entry that is put is found; other ids find what they found before. -/
@[simp]
theorem find?_put (t : PendingTable α) (e : PendingEntry α) (id : UInt16) :
    (t.put e).find? id = if e.id = id then some e else t.find? id := by
  have h := t.find?_erase e.id id
  unfold find? at h ⊢
  by_cases he : e.id = id <;> simp_all [put]

/-- After a purge an id finds its entry if that is young enough. -/
@[simp]
theorem find?_purge (t : PendingTable α) (now : Micros) (id : UInt16) :
    (t.purge now).find? id = (t.find? id).filter (!t.expired now ·) :=
  t.find?_keep _ id

/-- Records a value under an id. Gives the value it displaces, if any, or says why it is refused;
also gives the table afterwards, which a refusal may have purged. -/
def insert (t : PendingTable α) (id : UInt16) (value : α) (now : Micros) :
    Except PendingError (Option α) × PendingTable α :=
  match t.find? id with
  | some old =>
    if t.policy = .reject ∧ old.age now < t.timeout then
      (.error (.duplicate id (old.age now)), t)
    else (.ok (some old.value), t.put ⟨id, value, now⟩)
  | none =>
    if t.size < t.capacity then (.ok none, t.put ⟨id, value, now⟩)
    else
      let purged := t.purge now
      if purged.size < purged.capacity then (.ok none, purged.put ⟨id, value, now⟩)
      else (.error (.full t.capacity), purged)

/-- Removes the entry of an id and gives its value. -/
def take (t : PendingTable α) (id : UInt16) : Option α × PendingTable α :=
  match t.find? id with
  | some e => (some e.value, t.erase id)
  | none => (none, t)

/-- Drops the entries that have reached the timeout; says how many. -/
def purgeExpired (t : PendingTable α) (now : Micros) : Nat × PendingTable α :=
  (t.size - (t.purge now).size, t.purge now)

/-- Drops every entry. -/
def clear (t : PendingTable α) : PendingTable α :=
  { t with entries := [], ids_nodup := by simp }

/-- Nothing is found after everything was dropped. -/
@[simp]
theorem find?_clear (t : PendingTable α) (id : UInt16) : t.clear.find? id = none := rfl

end PendingTable

end ModbusRelay
