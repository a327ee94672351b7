import ModbusRelay.Proofs.Queue.Wait

/-!
The wait for an entry misses none.

A poll of the wait is a loop: it looks at the lanes, and when it has found nothing it uses up a
permit and looks again, or sleeps. `Looks` tells this loop by its rules, with the number of looks
and with no thought of whether it ends; it does, after two looks at most (`looks_iff`).

Whatever is pushed, taken, drained, polled and given up, the wait is `Awake`: it sleeps only while
there is nothing to take. So a poll depends on the lanes alone (`wait_misses_no_entry`), although a
wake-up may be too late, may come twice, and may be left to a later wait.
-/

namespace ModbusRelay

/-- One operation on the queue. There is one wait at most: a poll goes on with it, or starts it. -/
inductive QueueOp (α : Type) where
  | push (p : Priority) (a : α)
  | tryPop
  | poll
  | cancel
  | drain
  deriving DecidableEq, Repr

namespace WorkQueue

variable {α : Type}

/-- The queue after an operation. -/
def perform (q : WorkQueue α) : QueueOp α → WorkQueue α
  | .push p a => q.push p a
  | .tryPop => q.tryPop.2
  | .poll => q.poll.2
  | .cancel => q.cancel.2
  | .drain => q.drain.2

/-- The queue after a list of operations. -/
def performAll (q : WorkQueue α) (ops : List (QueueOp α)) : WorkQueue α := ops.foldl perform q

/-- A poll of the wait, with so many looks at the lanes, comes to this answer and this queue. -/
inductive Looks : WorkQueue α → Nat → Option (Priority × α) → WorkQueue α → Prop where
  /-- A wait that sleeps and has not been woken does not look. -/
  | sleeping {q : WorkQueue α} (asleep : q.waiter = .asleep) : Looks q 0 none q
  | found {q : WorkQueue α} {x : Priority × α} {lanes : Lanes α} (awake : q.waiter ≠ .asleep)
      (pop : q.lanes.pop? = some (x, lanes)) :
      Looks q 1 (some x) { q with lanes, waiter := .absent }
  | fellAsleep {q : WorkQueue α} (awake : q.waiter ≠ .asleep) (empty : q.lanes.pop? = none)
      (spent : q.permit = false) : Looks q 1 none { q with waiter := .asleep }
  | again {q q' : WorkQueue α} {n : Nat} {answer : Option (Priority × α)}
      (awake : q.waiter ≠ .asleep) (empty : q.lanes.pop? = none) (stored : q.permit = true)
      (more : Looks { q with permit := false } n answer q') : Looks q (n + 1) answer q'

variable {q : WorkQueue α}

/-! ## A poll ends -/

/-- The loop of a poll ends after two looks at most: there is one permit. -/
theorem looks_poll (q : WorkQueue α) : ∃ n ≤ 2, Looks q n q.poll.1 q.poll.2 := by
  by_cases hasleep : q.waiter = .asleep
  · have hpoll : q.poll = (none, q) := by
      unfold poll
      rw [hasleep]
    rw [hpoll]
    exact ⟨0, by omega, .sleeping hasleep⟩
  · have hpoll : q.poll = q.resume := by
      unfold poll
      split
      · next h => exact absurd h hasleep
      · rfl
      · rfl
    rw [hpoll]
    cases hpop : q.lanes.pop? with
    | some next =>
      rw [resume_of_pop? hpop]
      exact ⟨1, by omega, .found hasleep hpop⟩
    | none =>
      rw [resume_of_empty hpop]
      cases hpermit : q.permit with
      | false =>
        refine ⟨1, by omega, ?_⟩
        rw [← hpermit]
        exact .fellAsleep hasleep hpop hpermit
      | true =>
        exact ⟨2, Nat.le_refl 2, .again hasleep hpop hpermit (.fellAsleep hasleep hpop rfl)⟩

/-- The rules leave no choice. -/
theorem Looks.unique {n n' : Nat} {answer answer' : Option (Priority × α)} {q₁ q₂ : WorkQueue α}
    (h : Looks q n answer q₁) (h' : Looks q n' answer' q₂) :
    n = n' ∧ answer = answer' ∧ q₁ = q₂ := by
  induction h generalizing n' answer' q₂ with
  | sleeping asleep =>
    cases h' with
    | sleeping => exact ⟨rfl, rfl, rfl⟩
    | found awake | fellAsleep awake | again awake => exact absurd asleep awake
  | found awake pop =>
    cases h' with
    | sleeping asleep => exact absurd asleep awake
    | found _ pop' =>
      rw [pop] at pop'
      cases pop'
      exact ⟨rfl, rfl, rfl⟩
    | fellAsleep _ empty | again _ empty =>
      rw [pop] at empty
      cases empty
  | fellAsleep awake empty spent =>
    cases h' with
    | sleeping asleep => exact absurd asleep awake
    | found _ pop =>
      rw [empty] at pop
      cases pop
    | fellAsleep => exact ⟨rfl, rfl, rfl⟩
    | again _ _ stored =>
      rw [spent] at stored
      cases stored
  | again awake empty stored _ ih =>
    cases h' with
    | sleeping asleep => exact absurd asleep awake
    | found _ pop =>
      rw [empty] at pop
      cases pop
    | fellAsleep _ _ spent =>
      rw [spent] at stored
      cases stored
    | again _ _ _ more =>
      obtain ⟨rfl, hanswer, hqueue⟩ := ih more
      exact ⟨rfl, hanswer, hqueue⟩

/-- A poll is the one way to follow the rules. -/
theorem looks_iff (q : WorkQueue α) :
    ∃ n ≤ 2, ∀ n' answer q', Looks q n' answer q' ↔ n' = n ∧ q.poll = (answer, q') := by
  obtain ⟨n, hn, hpoll⟩ := q.looks_poll
  refine ⟨n, hn, fun n' answer q' => ⟨fun h => ?_, ?_⟩⟩
  · obtain ⟨rfl, hanswer, hqueue⟩ := hpoll.unique h
    exact ⟨rfl, Prod.ext hanswer hqueue⟩
  · rintro ⟨rfl, heq⟩
    rw [heq] at hpoll
    exact hpoll

/-! ## The wait is awake -/

theorem Awake.tryPop (hq : q.Awake) : q.tryPop.2.Awake := by
  unfold WorkQueue.tryPop
  cases hpop : q.lanes.pop? with
  | none => exact hq
  | some next =>
    intro hasleep
    rw [hq hasleep] at hpop
    cases hpop

/-- Every operation keeps the wait awake. -/
theorem Awake.perform (hq : q.Awake) (op : QueueOp α) : (q.perform op).Awake := by
  cases op with
  | push p a => exact Awake.push q p a
  | tryPop => exact hq.tryPop
  | poll => exact hq.poll
  | cancel => exact Awake.cancel q
  | drain => exact Awake.drain q

theorem Awake.performAll (hq : q.Awake) (ops : List (QueueOp α)) : (q.performAll ops).Awake := by
  induction ops generalizing q with
  | nil => exact hq
  | cons op ops ih => exact ih (hq.perform op)

theorem isEmpty_iff : q.isEmpty = true ↔ q.lanes.pop? = none := by
  rw [Lanes.pop?_eq_none_iff]
  simp [isEmpty, Lanes.isEmpty, Lanes.toList]

/-- **The wait misses no entry.** Whatever has been done to a new queue: a poll of the wait follows
its rules to their end, after two looks at the lanes at most, and comes to an entry just when there
is one; this is the entry that the lanes give next, only it is taken out, and the wait is over.
Without an entry the lanes stay as they are and the wait sleeps. A wait that is outstanding while
there are entries has been woken, and giving a wait up takes no entry away. -/
theorem wait_misses_no_entry (ops : List (QueueOp α)) :
    let q := ({} : WorkQueue α).performAll ops
    (∃ n ≤ 2, ∀ n' answer q', Looks q n' answer q' ↔ n' = n ∧ q.poll = (answer, q')) ∧
    (q.poll.1.isSome = true ↔ q.isEmpty = false) ∧
    (∀ x lanes, q.lanes.pop? = some (x, lanes) →
      q.poll = (some x, { q with lanes, waiter := .absent }) ∧
        q.lanes.toList = x.2 :: lanes.toList) ∧
    (q.isEmpty = true → q.poll.2.lanes = q.lanes ∧ q.poll.2.waiter = .asleep) ∧
    (q.waiter ≠ .absent → q.isEmpty = false → q.waiter = .woken) ∧
    q.cancel.2.lanes = q.lanes := by
  intro q
  have hq : q.Awake := Awake.empty.performAll ops
  have hfull : q.isEmpty = false ↔ ∃ next, q.lanes.pop? = some next := by
    rw [← Bool.not_eq_true, isEmpty_iff, ← ne_eq, Option.ne_none_iff_exists']
  refine ⟨q.looks_iff, ?_, fun x lanes h => ⟨(poll_of_pop? hq h).2, Lanes.toList_pop? h⟩,
    fun h => (poll_of_empty (isEmpty_iff.mp h)).2, fun hwaits h => ?_, q.lanes_cancel⟩
  · rw [hfull]
    cases hpop : q.lanes.pop? with
    | none => simp [(poll_of_empty hpop).1]
    | some next => simp [(poll_of_pop? hq hpop).2]
  · obtain ⟨next, hpop⟩ := hfull.mp h
    cases hwaiter : q.waiter with
    | absent => exact absurd hwaiter hwaits
    | asleep => exact absurd hwaiter (poll_of_pop? hq hpop).1
    | woken => rfl

/-- A wait sleeps, is woken by the first of two pushes, and is given up after somebody else has
taken that entry; the next wait uses up the wake-up that is left, sleeps, and is woken again. -/
def wokenInVain : List (QueueOp Nat) :=
  [.poll, .push .normal 1, .push .normal 2, .tryPop, .cancel, .tryPop, .poll, .push .normal 3,
    .push .high 4]

/-- The next poll comes to the high entry. -/
theorem poll_of_wokenInVain :
    let q := ({} : WorkQueue Nat).performAll wokenInVain
    q.waiter = .woken ∧ q.isEmpty = false ∧ q.poll.1 = some (.high, 4) ∧
      q.poll.2.lanes.toList = [3] := by
  intro q
  obtain ⟨-, -, htakes, -, hwoken, -⟩ := wait_misses_no_entry wokenInVain
  have hfull : q.isEmpty = false := by decide +kernel
  have hpop : q.lanes.pop? = some ((.high, 4), ⟨[], [3]⟩) := by decide +kernel
  obtain ⟨hpoll, -⟩ := htakes _ _ hpop
  exact ⟨hwoken (by decide +kernel) hfull, hfull, congrArg Prod.fst hpoll,
    congrArg (·.2.lanes.toList) hpoll⟩

end WorkQueue

end ModbusRelay
