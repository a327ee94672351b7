import ModbusRelay.Proofs.Pending.History

/-!
What the two ways to treat duplicates have in common.

A table asks for its policy only when an insertion meets an entry of its id that is younger than the
timeout. Any other operation answers the same under either policy and leaves the same entries
(`answer_withPolicy`, `perform_withPolicy`), purges for want of room included; and there the two
policies do answer differently (`answer_withPolicy_of_meetsYoung`). So two tables that differ in
their policy only are alike on a list of operations just when none meets such an entry
(`policies_differ_on_young_duplicates`).
-/

namespace ModbusRelay

/-- What an operation on the table answers. -/
inductive PendingAnswer (α : Type) where
  | inserted (result : Except PendingError (Option α))
  | taken (value : Option α)
  | purged (count : Nat)
  | cleared
  deriving DecidableEq

namespace PendingTable

variable {α : Type}

/-- What an operation answers. -/
def answer (t : PendingTable α) : PendingOp α → PendingAnswer α
  | .insert id value now => .inserted (t.insert id value now).1
  | .take id => .taken (t.take id).1
  | .purge now => .purged (t.purgeExpired now).1
  | .clear => .cleared

/-- What the operations of a list answer, one after the other. -/
def answers (t : PendingTable α) : List (PendingOp α) → List (PendingAnswer α)
  | [] => []
  | op :: ops => t.answer op :: (t.perform op).answers ops

/-- Two tables answer alike and hold the same entries, before the operations and after each. -/
structure Alike (s t : PendingTable α) (ops : List (PendingOp α)) : Prop where
  answers : s.answers ops = t.answers ops
  entries : ∀ before, before <+: ops →
    (s.performAll before).entries = (t.performAll before).entries

/-- The operation is an insertion that finds an entry of its id, younger than the timeout. -/
def MeetsYoung (t : PendingTable α) : PendingOp α → Prop
  | .insert id _ now => ∃ e ∈ t.find? id, e.age now < t.timeout
  | _ => False

/-- No insertion of a list finds an entry of its id that is younger than the timeout. -/
def NoneMeetsYoung (t : PendingTable α) : List (PendingOp α) → Prop
  | [] => True
  | op :: ops => ¬t.MeetsYoung op ∧ (t.perform op).NoneMeetsYoung ops

instance (t : PendingTable α) : DecidablePred t.MeetsYoung
  | .insert _ _ _ => inferInstanceAs (Decidable (∃ e ∈ _, _))
  | .take _ | .purge _ | .clear => inferInstanceAs (Decidable False)

instance decidableNoneMeetsYoung :
    (t : PendingTable α) → (ops : List (PendingOp α)) → Decidable (t.NoneMeetsYoung ops)
  | _, [] => inferInstanceAs (Decidable True)
  | t, op :: ops =>
    @instDecidableAnd _ _ (inferInstanceAs (Decidable (¬t.MeetsYoung op)))
      (decidableNoneMeetsYoung (t.perform op) ops)

/-- The table with another policy. -/
def withPolicy (t : PendingTable α) (policy : DuplicatePolicy) : PendingTable α :=
  { t with policy }

variable {s t : PendingTable α} {op : PendingOp α} {ops : List (PendingOp α)}
  {policy : DuplicatePolicy}

theorem alike_cons : s.Alike t (op :: ops) ↔
    s.answer op = t.answer op ∧ s.entries = t.entries ∧
      (s.perform op).Alike (t.perform op) ops := by
  constructor
  · rintro ⟨answers, entries⟩
    obtain ⟨hfirst, hrest⟩ := List.cons.inj answers
    refine ⟨hfirst, entries [] List.nil_prefix, hrest, fun before hbefore => ?_⟩
    exact entries (op :: before) ((List.prefix_cons_inj op).mpr hbefore)
  · rintro ⟨hfirst, hstart, answers, entries⟩
    refine ⟨List.cons_eq_cons.mpr ⟨hfirst, answers⟩, fun before hbefore => ?_⟩
    cases before with
    | nil => exact hstart
    | cons op' before =>
      obtain ⟨rfl, hrest⟩ := List.cons_prefix_cons.mp hbefore
      exact entries before hrest

/-! ## One operation -/

theorem find?_withPolicy (t : PendingTable α) (policy : DuplicatePolicy) (id : UInt16) :
    (t.withPolicy policy).find? id = t.find? id := rfl

/-- Away from young duplicates the policy makes no difference to an insertion. -/
theorem insert_withPolicy {id : UInt16} {value : α} {now : Micros}
    (h : ¬t.MeetsYoung (.insert id value now)) : (t.withPolicy policy).insert id value now =
      ((t.insert id value now).1, (t.insert id value now).2.withPolicy policy) := by
  unfold insert
  rw [find?_withPolicy]
  cases hold : t.find? id with
  | some old =>
    have hnot : ¬old.age now < t.timeout := fun young => h ⟨old, hold, young⟩
    have hnot' : ¬old.age now < (t.withPolicy policy).timeout := hnot
    simp only [hnot, hnot', and_false, if_false]
    rfl
  | none =>
    -- Room and purges are asked for without the policy.
    have hsize : (t.withPolicy policy).size < (t.withPolicy policy).capacity ↔
        t.size < t.capacity := Iff.rfl
    have hpurge : ((t.withPolicy policy).purge now).size <
        ((t.withPolicy policy).purge now).capacity ↔
        (t.purge now).size < (t.purge now).capacity := Iff.rfl
    dsimp only
    simp only [hsize, hpurge]
    split
    · rfl
    · split <;> rfl

theorem take_withPolicy (t : PendingTable α) (policy : DuplicatePolicy) (id : UInt16) :
    (t.withPolicy policy).take id = ((t.take id).1, (t.take id).2.withPolicy policy) := by
  unfold take
  rw [find?_withPolicy]
  cases t.find? id <;> rfl

theorem perform_withPolicy (h : ¬t.MeetsYoung op) :
    (t.withPolicy policy).perform op = (t.perform op).withPolicy policy := by
  cases op with
  | insert id value now => exact congrArg Prod.snd (insert_withPolicy h)
  | take id => exact congrArg Prod.snd (take_withPolicy t policy id)
  | purge now => rfl
  | clear => rfl

theorem answer_withPolicy (h : ¬t.MeetsYoung op) :
    (t.withPolicy policy).answer op = t.answer op := by
  cases op with
  | insert id value now =>
    exact congrArg (fun o => PendingAnswer.inserted o.1) (insert_withPolicy h)
  | take id => exact congrArg (fun o => PendingAnswer.taken o.1) (take_withPolicy t policy id)
  | purge now => rfl
  | clear => rfl

/-- A young duplicate is refused under the one policy and recorded under the other. -/
theorem answer_withPolicy_of_meetsYoung (hpolicy : t.policy = .reject) (h : t.MeetsYoung op) :
    t.answer op ≠ (t.withPolicy .replace).answer op := by
  cases op with
  | insert id value now =>
    obtain ⟨e, he, young⟩ := h
    have hfind : t.find? id = some e := he
    have hreject : (t.insert id value now).1 = .error (.duplicate id (e.age now)) := by
      unfold insert
      rw [hfind]
      simp [hpolicy, young]
    have hreplace : ((t.withPolicy .replace).insert id value now).1 = .ok (some e.value) := by
      unfold insert
      rw [find?_withPolicy, hfind]
      simp [withPolicy]
    simp [answer, hreject, hreplace]
  | take | purge | clear => cases h

/-! ## Lists of operations -/

theorem alike_withPolicy_iff (hpolicy : t.policy = .reject) :
    t.Alike (t.withPolicy .replace) ops ↔ t.NoneMeetsYoung ops := by
  induction ops generalizing t with
  | nil =>
    refine iff_of_true ⟨rfl, fun before hbefore => ?_⟩ trivial
    rw [List.prefix_nil.mp hbefore]
    rfl
  | cons op ops ih =>
    rw [alike_cons, NoneMeetsYoung]
    by_cases h : t.MeetsYoung op
    · exact iff_of_false (fun hsame => answer_withPolicy_of_meetsYoung hpolicy h hsame.1)
        fun hnone => hnone.1 h
    · have hpolicy' : (t.perform op).policy = .reject :=
        (t.settings_perform op).1.trans hpolicy
      rw [perform_withPolicy h, ih hpolicy']
      exact ⟨fun hsame => ⟨h, hsame.2.2⟩, fun hnone => ⟨(answer_withPolicy h).symm, rfl, hnone.2⟩⟩

/-- With a timeout of zero no entry is young. -/
theorem noneMeetsYoung_of_timeout (h : t.timeout = 0) : t.NoneMeetsYoung ops := by
  induction ops generalizing t with
  | nil => trivial
  | cons op ops ih =>
    refine ⟨?_, ih ((t.settings_perform op).2.1.trans h)⟩
    cases op with
    | insert id value now =>
      rintro ⟨e, -, young⟩
      rw [h] at young
      exact Nat.not_lt_zero _ young
    | take | purge | clear => exact id

/-- **The two policies differ on young duplicates only.** Take two new tables with the same timeout
and the same capacity, one that rejects duplicates and one that replaces, and the same operations at
any times. They answer alike all along and hold the same entries after each operation just when no
insertion meets an entry of its id in the table that rejects, younger than the timeout. With a
timeout of zero that is always so. -/
theorem policies_differ_on_young_duplicates (timeout : Micros) (capacity : Nat)
    (ops : List (PendingOp α)) :
    let reject : PendingTable α := empty .reject timeout capacity
    let replace : PendingTable α := empty .replace timeout capacity
    (reject.Alike replace ops ↔ reject.NoneMeetsYoung ops) ∧
      (timeout = 0 → reject.Alike replace ops) := by
  intro reject replace
  have hiff : reject.Alike replace ops ↔ reject.NoneMeetsYoung ops := alike_withPolicy_iff rfl
  exact ⟨hiff, fun h => hiff.mpr (noneMeetsYoung_of_timeout h)⟩

/-- With room for two, an old entry is displaced, and another gives way to a third id after the
clock has gone back. -/
def displacedWhenOld : List (PendingOp Nat) :=
  [.insert 7 1 10, .insert 8 2 20, .insert 7 3 60, .purge 5, .insert 9 4 70, .take 7]

/-- No policy can be told from these operations, but one can from a value that comes too early. -/
theorem alike_of_displacedWhenOld :
    let reject : PendingTable Nat := empty .reject 50 2
    let replace : PendingTable Nat := empty .replace 50 2
    reject.NoneMeetsYoung displacedWhenOld ∧ reject.Alike replace displacedWhenOld ∧
      reject.answers displacedWhenOld =
        [.inserted (.ok none), .inserted (.ok none), .inserted (.ok (some 1)), .purged 0,
          .inserted (.ok none), .taken (some 3)] ∧
      ¬reject.Alike replace backAndForth := by
  intro reject replace
  have hnone : reject.NoneMeetsYoung displacedWhenOld := by decide
  obtain ⟨hiff, -⟩ := policies_differ_on_young_duplicates (α := Nat) 50 2 displacedWhenOld
  obtain ⟨hiff', -⟩ := policies_differ_on_young_duplicates (α := Nat) 50 2 backAndForth
  exact ⟨hnone, hiff.mpr hnone, by decide, fun h => absurd (hiff'.mp h) (by decide)⟩

end PendingTable

end ModbusRelay
