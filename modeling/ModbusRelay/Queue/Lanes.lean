import ModbusRelay.Priority

/-!
Two first-in first-out lanes, one for each class. What is taken next is the oldest high entry, or
the oldest normal entry if there is no high one; `toList` lists the entries in that order.
-/

namespace ModbusRelay

/-- The entries of each class, oldest first. -/
structure Lanes (α : Type) where
  high : List α := []
  normal : List α := []
  deriving DecidableEq, Repr

namespace Lanes

variable {α : Type}

/-- The entries of one class, oldest first. -/
def lane (q : Lanes α) : Priority → List α
  | .high => q.high
  | .normal => q.normal

/-- Adds an entry at the end of the lane of its class. -/
def push (q : Lanes α) (p : Priority) (a : α) : Lanes α :=
  match p with
  | .high => { q with high := q.high ++ [a] }
  | .normal => { q with normal := q.normal ++ [a] }

/-- Takes the next entry, with its class. -/
def pop? (q : Lanes α) : Option ((Priority × α) × Lanes α) :=
  match q.high, q.normal with
  | a :: high, _ => some ((.high, a), { q with high })
  | [], a :: normal => some ((.normal, a), { q with normal })
  | [], [] => none

/-- All entries in the order in which they would be taken. -/
def toList (q : Lanes α) : List α := q.high ++ q.normal

/-- The number of entries in both lanes. -/
def size (q : Lanes α) : Nat := q.high.length + q.normal.length

/-- Are both lanes empty? -/
def isEmpty (q : Lanes α) : Bool := q.high.isEmpty && q.normal.isEmpty

/-- Takes everything at once. -/
def drain (q : Lanes α) : List α × Lanes α := (q.toList, {})

@[simp]
theorem length_toList (q : Lanes α) : q.toList.length = q.size := by
  simp [toList, size]

/-- A pop takes the head of the list. -/
theorem toList_pop? {q q' : Lanes α} {p : Priority} {a : α} (h : q.pop? = some ((p, a), q')) :
    q.toList = a :: q'.toList := by
  unfold pop? at h
  split at h <;> simp_all [toList]
  · obtain ⟨⟨_, rfl⟩, rfl⟩ := h
    rfl
  · obtain ⟨⟨_, rfl⟩, rfl⟩ := h
    simp

/-- A push reaches the lane of its class only. -/
@[simp]
theorem lane_push (q : Lanes α) (p p' : Priority) (a : α) :
    (q.push p a).lane p' = if p = p' then q.lane p' ++ [a] else q.lane p' := by
  cases p <;> cases p' <;> simp [push, lane]

/-- A pop finds nothing just when there is nothing. -/
@[simp]
theorem pop?_eq_none_iff (q : Lanes α) : q.pop? = none ↔ q.toList = [] := by
  unfold pop?
  split <;> simp_all [toList]
end Lanes

end ModbusRelay
