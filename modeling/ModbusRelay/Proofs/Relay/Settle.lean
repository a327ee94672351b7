import ModbusRelay.Proofs.Relay.Account

/-!
Coming to rest is a run like any other.

The fixed order of turns finds a turn unless no worker can take one (`nextTurn?_eq_none_iff`), and
what it makes of a relay is a run of turns and of answers of the device (`settle_eq_run`). So what
holds of all runs holds of a relay that has come to rest, and of an instance that has been shut
down.
-/

namespace ModbusRelay

/-- Is it a turn of a worker, or something that the device sends? -/
def Move.settles : Move → Bool
  | .turn _ | .input (.deviceSends _) => true
  | _ => false

namespace Relay

variable {r : Relay}

theorem clientIn?_of_length_le {c : Nat} (hc : r.clients.length ≤ c) (phase : SessionPhase) :
    r.clientIn? c phase = none := by
  unfold clientIn? client?
  rw [List.getElem?_eq_none hc]

theorem freeSession?_of_length_le {c : Nat} (hc : r.clients.length ≤ c) :
    r.freeSession? c = none := by
  simp [freeSession?, clientIn?_of_length_le hc]

/-- A turn that can be taken is among those that are tried. -/
theorem mem_turns {t : Turn} (h : (r.turn? t).isSome) : t ∈ r.turns := by
  have heach (turn : Nat → Turn) (c : Nat)
      (hc : r.clients.length ≤ c → r.turn? (turn c) = none) (ht : t = turn c) :
      t ∈ (List.range r.clients.length).map turn := by
    subst ht
    refine List.mem_map.mpr ⟨c, List.mem_range.mpr (Nat.lt_of_not_le fun hle => ?_), rfl⟩
    rw [hc hle] at h
    cases h
  cases t with
  | «begin» c =>
    have := heach .begin c (fun hc => by simp [turn?, begin?, clientIn?_of_length_le hc]) rfl
    simp [turns, this]
  | intake c =>
    have := heach .intake c (fun hc => by simp [turn?, intake?, freeSession?_of_length_le hc]) rfl
    simp [turns, this]
  | fetch c =>
    have := heach .fetch c (fun hc => by simp [turn?, fetch?, freeSession?_of_length_le hc]) rfl
    simp [turns, this]
  | deliver c =>
    have := heach .deliver c (fun hc => by simp [turn?, deliver?, clientIn?_of_length_le hc]) rfl
    simp [turns, this]
  | stopSession c =>
    have := heach .stopSession c
      (fun hc => by simp [turn?, stopSession?, clientIn?_of_length_le hc]) rfl
    simp [turns, this]
  | _ => simp [turns]

/-- The order of turns finds none just when no worker can take one. -/
theorem nextTurn?_eq_none_iff : r.nextTurn? = none ↔ r.Quiet := by
  unfold nextTurn? Quiet
  rw [List.findSome?_eq_none_iff]
  constructor
  · intro h t
    cases ht : r.turn? t with
    | none => rfl
    | some o =>
      rw [h t (mem_turns (by rw [ht]; rfl))] at ht
      cases ht
  · exact fun h t _ => h t

instance (r : Relay) : Decidable r.Quiet := decidable_of_iff _ nextTurn?_eq_none_iff

/-- Taking turns with a device that answers is a run. -/
theorem settleWithin_eq_run (answer : List UInt8 → List UInt8) (fuel : Nat) (r : Relay) :
    ∃ ns, (∀ m ∈ ns, m.settles = true) ∧ settleWithin answer fuel r = r.run ns := by
  induction fuel generalizing r with
  | zero => exact ⟨[], by simp, rfl⟩
  | succ fuel ih =>
    unfold settleWithin
    cases hnext : r.nextTurn? with
    | none => exact ⟨[], by simp, rfl⟩
    | some o =>
      obtain ⟨t, -, ht⟩ := List.exists_of_findSome?_eq_some hnext
      obtain ⟨next, events⟩ := o
      generalize hbytes : answer (next.deviceGotSince r) = bytes
      obtain ⟨ns, hns, hrun⟩ := ih (next.apply (.deviceSends bytes)).1
      refine ⟨.turn t :: .input (.deviceSends bytes) :: ns, ?_, ?_⟩
      · intro m hm
        simp only [List.mem_cons] at hm
        rcases hm with rfl | rfl | hm
        · rfl
        · rfl
        · exact hns m hm
      · dsimp only
        rw [hbytes, hrun, run, move_of_turn? ht, List.append_assoc]
        rfl

/-- Settling records nothing past the dispatcher. -/
theorem onlyDispatcherRecords_of_settles {ns : List Move} (h : ∀ m ∈ ns, m.settles = true) :
    OnlyDispatcherRecords ns := by
  intro m hm
  have := h m hm
  unfold Move.settles at this
  split at this <;> first | rfl | cases this

/-- A relay comes to rest by a run. -/
theorem settle_eq_run (r : Relay) :
    ∃ ns, (∀ m ∈ ns, m.settles = true) ∧ r.settle = r.run ns :=
  settleWithin_eq_run _ _ r

/-- An input and the turns it leads to are a run. -/
theorem after_eq_run (r : Relay) (i : Input) :
    ∃ ns, (∀ m ∈ ns, m.settles = true) ∧ r.after i = r.run (.input i :: ns) := by
  rcases happly : r.apply i with ⟨next, events⟩
  obtain ⟨ns, hns, hrun⟩ := next.settle_eq_run
  refine ⟨ns, hns, ?_⟩
  unfold after
  rw [happly, run, show r.move (.input i) = (next, events) from happly]
  dsimp only
  rw [hrun]

end Relay

end ModbusRelay
