import ModbusRelay.Proofs.Queue.Wait

/-!
The order in which entries leave the two lanes.

Pushes, pops and drains come in any order. What an operation takes off a lane it hands out, and what
it puts on a lane it puts at the end (`lane_perform`); so the entries of one class leave in the order
in which they came, and none is lost or comes twice (`lane_performAll`). A drain hands out what pops
would have handed out one by one (`answers_pops`), which is how its entries have a class at all.
-/

namespace ModbusRelay

/-- One operation on the lanes. -/
inductive LanesOp (α : Type) where
  | push (p : Priority) (a : α)
  | pop
  | drain
  deriving DecidableEq, Repr

/-- What an operation on the lanes answers. -/
inductive LanesAnswer (α : Type) where
  | pushed
  | popped (next : Option (Priority × α))
  | drained (all : List α)
  deriving DecidableEq, Repr

variable {α : Type}

/-- The entry that an operation puts on a lane. -/
def LanesOp.pushed? : LanesOp α → Option (Priority × α)
  | .push p a => some (p, a)
  | .pop | .drain => none

/-- The entries in an answer. -/
def LanesAnswer.values : LanesAnswer α → List α
  | .pushed => []
  | .popped next => (next.map (·.2)).toList
  | .drained all => all

namespace Lanes

/-- The answer to an operation, and the lanes after it. -/
def perform (q : Lanes α) : LanesOp α → LanesAnswer α × Lanes α
  | .push p a => (.pushed, q.push p a)
  | .pop =>
    match q.pop? with
    | some (next, rest) => (.popped (some next), rest)
    | none => (.popped none, q)
  | .drain => (.drained q.drain.1, q.drain.2)

/-- The lanes after a list of operations. -/
def performAll (q : Lanes α) (ops : List (LanesOp α)) : Lanes α :=
  ops.foldl (fun q op => (q.perform op).2) q

/-- The answers to a list of operations. -/
def answers (q : Lanes α) : List (LanesOp α) → List (LanesAnswer α)
  | [] => []
  | op :: ops => (q.perform op).1 :: (q.perform op).2.answers ops

/-- All entries with their classes, in the order in which they would be taken. -/
def entries (q : Lanes α) : List (Priority × α) :=
  q.high.map (Priority.high, ·) ++ q.normal.map (Priority.normal, ·)

/-- The entries that an operation hands out, with their classes. -/
def hands (q : Lanes α) : LanesOp α → List (Priority × α)
  | .push .. => []
  | .pop => (q.pop?.map (·.1)).toList
  | .drain => q.entries

/-- The entries that a list of operations hands out, in order. -/
def handedOut (q : Lanes α) : List (LanesOp α) → List (Priority × α)
  | [] => []
  | op :: ops => q.hands op ++ (q.perform op).2.handedOut ops

variable {q q' : Lanes α}

/-! ## The entries -/

@[simp]
theorem ofClass_entries (q : Lanes α) (p : Priority) : ofClass p q.entries = q.lane p := by
  have hclass (p p' : Priority) (xs : List α) :
      ofClass p (xs.map (p', ·)) = if p' = p then xs else [] := by
    induction xs with
    | nil => simp
    | cons x xs ih =>
      rw [List.map_cons, ofClass_cons, ih]
      split <;> rfl
  unfold entries
  rw [ofClass_append]
  cases p
  · rw [hclass, hclass, if_pos rfl, if_neg (by simp), List.append_nil]
    rfl
  · rw [hclass, hclass, if_neg (by simp), if_pos rfl, List.nil_append]
    rfl

theorem map_snd_entries (q : Lanes α) : q.entries.map (·.2) = q.toList := by
  simp [entries, toList, Function.comp_def]

@[simp]
theorem length_entries (q : Lanes α) : q.entries.length = q.size := by
  simp [entries, size]

theorem entries_of_pop? {x : Priority × α} (h : q.pop? = some (x, q')) :
    q.entries = x :: q'.entries := by
  unfold pop? at h
  split at h
  · next hhigh =>
    cases h
    simp [entries, hhigh]
  · next hhigh hnormal =>
    cases h
    simp [entries, hhigh, hnormal]
  · cases h

theorem entries_of_pop?_none (h : q.pop? = none) : q.entries = [] := by
  have hhigh : q.high = [] := lane_of_pop?_none h .high
  have hnormal : q.normal = [] := lane_of_pop?_none h .normal
  rw [entries, hhigh, hnormal]
  rfl

/-! ## One operation, then all -/

/-- What was on a lane and what comes on it is handed out or stays, in this order. -/
theorem lane_perform (q : Lanes α) (op : LanesOp α) (p : Priority) :
    ofClass p (q.hands op) ++ (q.perform op).2.lane p =
      q.lane p ++ ofClass p op.pushed?.toList := by
  cases op with
  | push p' a =>
    show ofClass p [] ++ (q.push p' a).lane p = q.lane p ++ ofClass p [(p', a)]
    rw [lane_push, ofClass_singleton]
    split <;> simp
  | pop =>
    unfold hands perform
    cases hpop : q.pop? with
    | none => simp [LanesOp.pushed?]
    | some next =>
      obtain ⟨⟨p', a⟩, rest⟩ := next
      show ofClass p [(p', a)] ++ rest.lane p = q.lane p ++ ofClass p []
      rw [lane_of_pop? hpop, ofClass_singleton]
      split <;> simp
  | drain =>
    show ofClass p q.entries ++ ({} : Lanes α).lane p = q.lane p ++ ofClass p []
    rw [ofClass_entries, lane_empty, ofClass_nil]

theorem lane_performAll (q : Lanes α) (ops : List (LanesOp α)) (p : Priority) :
    ofClass p (q.handedOut ops) ++ (q.performAll ops).lane p =
      q.lane p ++ ofClass p (ops.filterMap LanesOp.pushed?) := by
  induction ops generalizing q with
  | nil => simp [handedOut, performAll]
  | cons op ops ih =>
    have hcons : (op :: ops).filterMap LanesOp.pushed? =
        op.pushed?.toList ++ ops.filterMap LanesOp.pushed? := by
      rw [List.filterMap_cons]
      cases op.pushed? <;> rfl
    calc ofClass p (q.handedOut (op :: ops)) ++ (q.performAll (op :: ops)).lane p
        = ofClass p (q.hands op) ++
            (ofClass p ((q.perform op).2.handedOut ops) ++
              ((q.perform op).2.performAll ops).lane p) := by
          rw [handedOut, ofClass_append, List.append_assoc]
          rfl
      _ = (ofClass p (q.hands op) ++ (q.perform op).2.lane p) ++
            ofClass p (ops.filterMap LanesOp.pushed?) := by
          rw [ih, List.append_assoc]
      _ = q.lane p ++ ofClass p ((op :: ops).filterMap LanesOp.pushed?) := by
          rw [lane_perform, hcons, ofClass_append, List.append_assoc]

/-- What is handed out stands in the answers. -/
theorem map_snd_handedOut (q : Lanes α) (ops : List (LanesOp α)) :
    (q.handedOut ops).map (·.2) = (q.answers ops).flatMap LanesAnswer.values := by
  induction ops generalizing q with
  | nil => rfl
  | cons op ops ih =>
    have hop : (q.hands op).map (·.2) = (q.perform op).1.values := by
      cases op with
      | push => rfl
      | pop =>
        unfold hands perform
        cases q.pop? <;> rfl
      | drain => exact q.map_snd_entries
    rw [handedOut, answers, List.map_append, List.flatMap_cons, hop, ih]

/-- Pops one after the other give the entries in order, and then nothing. -/
theorem answers_pops (q : Lanes α) (n : Nat) :
    q.answers (List.replicate n .pop) =
      (q.entries.take n).map (fun x => .popped (some x)) ++
        List.replicate (n - q.entries.length) (.popped none) := by
  induction n generalizing q with
  | zero => simp [answers]
  | succ n ih =>
    rw [List.replicate_succ, answers, ih]
    unfold perform
    cases hpop : q.pop? with
    | none => simp [entries_of_pop?_none hpop, List.replicate_succ]
    | some next => simp [entries_of_pop? hpop]

/-- **Priority first, then first in, first out.** Whatever is pushed, popped and drained, from new
lanes on: of each class, the entries handed out and then those still there are the entries pushed,
in the order of the pushes; a normal entry is popped only when there is no high one, and nothing is
popped only when there is none at all; and a drain hands out what pops would hand out one by one
until there is nothing, and leaves nothing. -/
theorem lanes_keep_order (ops : List (LanesOp α)) :
    let q := ({} : Lanes α).performAll ops
    let out := ({} : Lanes α).handedOut ops
    (∀ p, ofClass p out ++ q.lane p = ofClass p (ops.filterMap LanesOp.pushed?)) ∧
    out.map (·.2) = (({} : Lanes α).answers ops).flatMap LanesAnswer.values ∧
    (∀ a rest, q.perform .pop = (.popped (some (.normal, a)), rest) → q.lane .high = []) ∧
    ((q.perform .pop).1 = .popped none ↔ ∀ p, q.lane p = []) ∧
    (q.perform .drain = (.drained (q.entries.map (·.2)), {}) ∧
      ∀ n, q.answers (List.replicate n .pop) =
        (q.entries.take n).map (fun x => .popped (some x)) ++
          List.replicate (n - q.entries.length) (.popped none)) := by
  intro q out
  refine ⟨fun p => ?_, map_snd_handedOut _ ops, fun a rest h => ?_, ?_, ?_, q.answers_pops⟩
  · have hall := lane_performAll ({} : Lanes α) ops p
    rw [lane_empty, List.nil_append] at hall
    exact hall
  · unfold perform at h
    cases hpop : q.pop? with
    | none =>
      rw [hpop] at h
      cases h
    | some next =>
      obtain ⟨x, lanes⟩ := next
      rw [hpop] at h
      cases h
      exact high_of_pop?_normal hpop
  · unfold perform
    cases hpop : q.pop? with
    | none => exact iff_of_true rfl (lane_of_pop?_none hpop)
    | some next =>
      refine iff_of_false (by simp) fun hempty => ?_
      obtain ⟨⟨p, a⟩, rest⟩ := next
      have hlane := lane_of_pop? hpop p
      rw [hempty p, if_pos rfl] at hlane
      cases hlane
  · rw [map_snd_entries]
    rfl

/-- A high entry overtakes a normal one, and a drain hands out what a pop has left. -/
example :
    let ops : List (LanesOp Nat) :=
      [.push .normal 1, .push .high 2, .pop, .push .high 3, .drain, .push .normal 4]
    ({} : Lanes Nat).answers ops =
      [.pushed, .pushed, .popped (some (.high, 2)), .pushed, .drained [3, 1], .pushed] := by
  decide

end Lanes

end ModbusRelay
