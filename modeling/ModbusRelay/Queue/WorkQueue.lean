import ModbusRelay.Queue.Lanes

/-!
The queue between the sessions, which push, and the dispatcher, which waits for the next entry.

One wait may be outstanding. A push wakes it; if nobody waits, or the wait has been woken already,
the push leaves one permit behind, which the next wait uses up instead of sleeping. A wait that is
given up after it was woken passes its wake-up on as a permit. So a woken wait may find that
somebody else has taken the entry, and then it sleeps again.
-/

namespace ModbusRelay

/-- The outstanding wait. -/
inductive Waiter where
  | absent
  | asleep
  | woken
  deriving DecidableEq, Repr

/-- The queue: its lanes, and the state of waiting for them. -/
structure WorkQueue (α : Type) where
  lanes : Lanes α := {}
  /-- A wake-up that nobody has used. -/
  permit : Bool := false
  waiter : Waiter := .absent
  deriving DecidableEq, Repr

namespace WorkQueue

variable {α : Type}

/-- Wakes the outstanding wait, or keeps the wake-up for the next one. -/
def wake (q : WorkQueue α) : WorkQueue α :=
  match q.waiter with
  | .asleep => { q with waiter := .woken }
  | .absent | .woken => { q with permit := true }

/-- Never waits. -/
def push (q : WorkQueue α) (p : Priority) (a : α) : WorkQueue α :=
  { q with lanes := q.lanes.push p a }.wake

/-- Takes the next entry if there is one, past any wait. -/
def tryPop (q : WorkQueue α) : Option (Priority × α) × WorkQueue α :=
  match q.lanes.pop? with
  | some (next, lanes) => (some next, { q with lanes })
  | none => (none, q)

/-- Goes on with a wait that is not asleep: takes the next entry. If there is none it uses up the
permit and looks again, and without a permit it goes to sleep. -/
def resume (q : WorkQueue α) : Option (Priority × α) × WorkQueue α :=
  match q.lanes.pop? with
  | some (next, lanes) => (some next, { q with lanes, waiter := .absent })
  | none =>
    if q.permit then resume { q with permit := false }
    else (none, { q with waiter := .asleep })
termination_by q.permit.toNat
decreasing_by simp_all

/-- Goes on with the outstanding wait, or starts one. `none` means that it sleeps. -/
def poll (q : WorkQueue α) : Option (Priority × α) × WorkQueue α :=
  match q.waiter with
  | .asleep => (none, q)
  | .absent | .woken => q.resume

/-- Gives up the outstanding wait; says whether there was one. -/
def cancel (q : WorkQueue α) : Bool × WorkQueue α :=
  match q.waiter with
  | .absent => (false, q)
  | .asleep => (true, { q with waiter := .absent })
  | .woken => (true, { q with waiter := .absent }.wake)

/-- Takes everything, past any wait. -/
def drain (q : WorkQueue α) : List α × WorkQueue α :=
  (q.lanes.toList, { q with lanes := {} })

/-- The number of entries. -/
def size (q : WorkQueue α) : Nat := q.lanes.size

/-- Are there no entries? -/
def isEmpty (q : WorkQueue α) : Bool := q.lanes.isEmpty

end WorkQueue

end ModbusRelay
