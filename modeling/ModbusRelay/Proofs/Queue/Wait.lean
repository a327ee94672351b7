import ModbusRelay.Queue.WorkQueue

/-!
What the operations on the queue do to its two lanes, and when the wait for an entry sleeps.

A queue is `Awake` when its wait sleeps only while there is nothing to take. Every operation keeps
that, so whether a wait that goes on takes an entry, and which one, depends on the lanes alone
(`poll_of_pop?`, `poll_of_empty`): the permit and the state of the wait never show.
-/

namespace ModbusRelay

/-! ## Entries by class -/

section OfClass

variable {α : Type}

/-- The entries of one class, in order. -/
def ofClass (p : Priority) (xs : List (Priority × α)) : List α :=
  xs.filterMap fun x => if x.1 = p then some x.2 else none

@[simp]
theorem ofClass_nil (p : Priority) : ofClass p ([] : List (Priority × α)) = [] := rfl

@[simp]
theorem ofClass_append (p : Priority) (xs ys : List (Priority × α)) :
    ofClass p (xs ++ ys) = ofClass p xs ++ ofClass p ys :=
  List.filterMap_append

theorem ofClass_singleton (p : Priority) (x : Priority × α) :
    ofClass p [x] = if x.1 = p then [x.2] else [] := by
  unfold ofClass
  rw [List.filterMap_cons]
  split <;> simp_all

theorem ofClass_cons (p : Priority) (x : Priority × α) (xs : List (Priority × α)) :
    ofClass p (x :: xs) = (if x.1 = p then [x.2] else []) ++ ofClass p xs := by
  rw [← ofClass_singleton, ← ofClass_append, List.singleton_append]

theorem mem_ofClass {p : Priority} {a : α} {xs : List (Priority × α)} :
    a ∈ ofClass p xs ↔ (p, a) ∈ xs := by
  simp only [ofClass, List.mem_filterMap, Prod.exists]
  constructor
  · rintro ⟨p', a', hmem, heq⟩
    split at heq
    · next hp =>
      cases heq
      exact hp ▸ hmem
    · cases heq
  · intro h
    exact ⟨p, a, h, by simp⟩

/-- Entries that all have one class can be picked before or after the class is asked for. -/
theorem filter_ofClass {p : Priority} {test : α → Bool} {xs : List (Priority × α)}
    (h : ∀ x ∈ xs, test x.2 → x.1 = p) :
    (ofClass p xs).filter test = (xs.map (·.2)).filter test := by
  induction xs with
  | nil => rfl
  | cons x xs ih =>
    have ih := ih fun y hy => h y (List.mem_cons_of_mem x hy)
    have hx := h x List.mem_cons_self
    rw [ofClass_cons, List.filter_append, ih, List.map_cons, List.filter_cons]
    by_cases hp : x.1 = p
    · simp [hp, List.filter_cons]
      split <;> rfl
    · cases ht : test x.2 with
      | false => simp [hp]
      | true => exact absurd (hx ht) hp

theorem count_map_snd [BEq α] (a : α) (xs : List (Priority × α)) :
    (xs.map (·.2)).count a = (ofClass .high xs).count a + (ofClass .normal xs).count a := by
  induction xs with
  | nil => rfl
  | cons x xs ih =>
    rw [List.map_cons, List.count_cons, ih, ofClass_cons, ofClass_cons, List.count_append,
      List.count_append]
    rcases x with ⟨_ | _, b⟩
    · simp [List.count_cons]
      omega
    · simp [List.count_cons]
      omega

end OfClass

namespace Lanes

variable {α : Type}

/-- A pop takes the head of one lane and leaves the other alone. -/
theorem lane_of_pop? {q q' : Lanes α} {p : Priority} {a : α} (h : q.pop? = some ((p, a), q'))
    (p' : Priority) : q.lane p' = if p = p' then a :: q'.lane p' else q'.lane p' := by
  unfold pop? at h
  split at h
  · next hhigh =>
    cases h
    cases p' <;> simp [lane, hhigh]
  · next hhigh hnormal =>
    cases h
    cases p' <;> simp [lane, hnormal]
  · cases h

/-- Normal entries wait for all high ones. -/
theorem high_of_pop?_normal {q q' : Lanes α} {a : α} (h : q.pop? = some ((.normal, a), q')) :
    q.high = [] := by
  unfold pop? at h
  split at h
  · cases h
  · assumption
  · cases h

/-- Of two queues whose lanes begin alike, both give the same entry. -/
theorem pop?_of_lane {q q' l : Lanes α} {p : Priority} {a : α} {rest : List α}
    (h : q.pop? = some ((p, a), q')) (hlane : l.lane p = a :: rest)
    (hhigh : p = .normal → l.high = []) :
    ∃ l', l.pop? = some ((p, a), l') ∧
      ∀ p', l'.lane p' = if p = p' then rest else l.lane p' := by
  cases p with
  | high =>
    refine ⟨{ l with high := rest }, ?_, fun p' => ?_⟩
    · unfold pop?
      rw [show l.high = a :: rest from hlane]
    · cases p' <;> rfl
  | normal =>
    refine ⟨{ l with normal := rest }, ?_, fun p' => ?_⟩
    · unfold pop?
      rw [show l.normal = a :: rest from hlane, hhigh rfl]
    · cases p' <;> rfl

/-- Nothing is popped only when both lanes are empty. -/
theorem lane_of_pop?_none {q : Lanes α} (h : q.pop? = none) (p : Priority) : q.lane p = [] := by
  unfold pop? at h
  split at h
  · cases h
  · cases h
  · next hhigh hnormal =>
    cases p
    · exact hhigh
    · exact hnormal

@[simp]
theorem lane_empty (p : Priority) : (({} : Lanes α)).lane p = [] := by
  cases p <;> rfl

theorem ext_lane {q q' : Lanes α} (h : ∀ p, q.lane p = q'.lane p) : q = q' := by
  cases q
  cases q'
  have hhigh := h .high
  have hnormal := h .normal
  simp only [lane] at hhigh hnormal
  rw [hhigh, hnormal]

end Lanes

namespace WorkQueue

variable {α : Type}

/-! ## The lanes -/

@[simp]
theorem lanes_wake (q : WorkQueue α) : q.wake.lanes = q.lanes := by
  unfold wake
  split <;> rfl

@[simp]
theorem lanes_push (q : WorkQueue α) (p : Priority) (a : α) :
    (q.push p a).lanes = q.lanes.push p a := by
  unfold push
  rw [lanes_wake]

@[simp]
theorem lanes_cancel (q : WorkQueue α) : q.cancel.2.lanes = q.lanes := by
  unfold cancel
  split
  · rfl
  · rfl
  · simp

@[simp]
theorem lanes_drain (q : WorkQueue α) : q.drain.2.lanes = {} := rfl

/-- Pushes entries, oldest first. -/
def pushAll (q : WorkQueue α) (xs : List (Priority × α)) : WorkQueue α :=
  xs.foldl (fun q x => q.push x.1 x.2) q

theorem lane_pushAll (q : WorkQueue α) (xs : List (Priority × α)) (p : Priority) :
    (q.pushAll xs).lanes.lane p = q.lanes.lane p ++ ofClass p xs := by
  induction xs generalizing q with
  | nil => simp [pushAll]
  | cons x xs ih =>
    show ((q.push x.1 x.2).pushAll xs).lanes.lane p = _
    rw [ih, lanes_push, Lanes.lane_push, ofClass_cons]
    split <;> simp

/-! ## The wait -/

theorem resume_of_pop? {q : WorkQueue α} {x : Priority × α} {lanes : Lanes α}
    (h : q.lanes.pop? = some (x, lanes)) :
    q.resume = (some x, { q with lanes, waiter := .absent }) := by
  rw [resume]
  split
  · next heq =>
    rw [h] at heq
    cases heq
    rfl
  · next heq =>
    rw [h] at heq
    cases heq

/-- Without an entry the wait uses up the permit and sleeps in any case. -/
theorem resume_of_empty {q : WorkQueue α} (h : q.lanes.pop? = none) :
    q.resume = (none, { q with permit := false, waiter := .asleep }) := by
  have hsleep : ∀ q : WorkQueue α, q.lanes.pop? = none → q.permit = false →
      q.resume = (none, { q with waiter := .asleep }) := by
    intro q h hpermit
    rw [resume]
    split
    · next heq =>
      rw [h] at heq
      cases heq
    · simp [hpermit]
  cases hpermit : q.permit with
  | false =>
    rw [hsleep q h hpermit]
    cases q
    simp_all
  | true =>
    rw [resume]
    split
    · next heq =>
      rw [h] at heq
      cases heq
    · rw [if_pos hpermit, hsleep { q with permit := false } h rfl]

/-- The wait sleeps only while there is nothing to take. -/
def Awake (q : WorkQueue α) : Prop := q.waiter = .asleep → q.lanes.pop? = none

theorem poll_of_pop? {q : WorkQueue α} (hq : q.Awake) {x : Priority × α} {lanes : Lanes α}
    (h : q.lanes.pop? = some (x, lanes)) :
    q.waiter ≠ .asleep ∧ q.poll = (some x, { q with lanes, waiter := .absent }) := by
  have hwaiter : q.waiter ≠ .asleep := by
    intro hasleep
    rw [hq hasleep] at h
    cases h
  refine ⟨hwaiter, ?_⟩
  unfold poll
  split
  · next hasleep => exact absurd hasleep hwaiter
  · exact resume_of_pop? h
  · exact resume_of_pop? h

theorem poll_of_empty {q : WorkQueue α} (h : q.lanes.pop? = none) :
    q.poll.1 = none ∧ q.poll.2.lanes = q.lanes ∧ q.poll.2.waiter = .asleep := by
  unfold poll
  split
  · next hasleep => exact ⟨rfl, rfl, hasleep⟩
  · rw [resume_of_empty h]
    exact ⟨rfl, rfl, rfl⟩
  · rw [resume_of_empty h]
    exact ⟨rfl, rfl, rfl⟩

theorem Awake.empty : ({} : WorkQueue α).Awake := fun h => by cases h

/-- A push wakes the wait. -/
theorem Awake.push (q : WorkQueue α) (p : Priority) (a : α) : (q.push p a).Awake := by
  intro hasleep
  unfold WorkQueue.push wake at hasleep
  split at hasleep
  · cases hasleep
  · next h =>
    dsimp only at hasleep h
    rw [hasleep] at h
    cases h
  · next h =>
    dsimp only at hasleep h
    rw [hasleep] at h
    cases h

theorem Awake.pushAll {q : WorkQueue α} (hq : q.Awake) (xs : List (Priority × α)) :
    (q.pushAll xs).Awake := by
  induction xs generalizing q with
  | nil => exact hq
  | cons x xs ih => exact ih (Awake.push q x.1 x.2)

theorem Awake.drain (q : WorkQueue α) : q.drain.2.Awake := fun _ => rfl

/-- After a cancellation no wait is outstanding. -/
theorem waiter_cancel (q : WorkQueue α) : q.cancel.2.waiter ≠ .asleep := by
  intro hasleep
  unfold cancel at hasleep
  split at hasleep
  · next h =>
    rw [h] at hasleep
    cases hasleep
  · cases hasleep
  · unfold wake at hasleep
    cases hasleep

theorem Awake.cancel (q : WorkQueue α) : q.cancel.2.Awake := fun h => absurd h q.waiter_cancel

theorem Awake.poll {q : WorkQueue α} (hq : q.Awake) : q.poll.2.Awake := by
  cases h : q.lanes.pop? with
  | none =>
    intro _
    rw [(poll_of_empty h).2.1, h]
  | some next =>
    obtain ⟨x, lanes⟩ := next
    rw [(poll_of_pop? hq h).2]
    intro hasleep
    cases hasleep

end WorkQueue

end ModbusRelay
