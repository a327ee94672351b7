import ModbusRelay.Proofs.Metrics.LeftOut
import ModbusRelay.Proofs.Relay.Mailbox
import ModbusRelay.Proofs.Relay.Unread
import ModbusRelay.Proofs.Relay.Work

/-!
Two runs side by side, move by move.

`Agrees` says that two relays are the same to everybody but the dispatcher: they differ at most in
the work to be done and in what sessions have not read. `Alongside` runs two lists of moves of equal
length next to each other such that the relays agree all the time, and each move of the second run
either has the same events as that of the first or none; the events that are missing are collected.
-/

namespace ModbusRelay

/-- The client as it is when nothing is said about what its session has not read. -/
def Client.outside (c : Client) : Client := c.withConnection ({ · with input := {} })

namespace Relay

/-- The relays differ at most in the queue, the dispatcher and what sessions have not read. -/
structure Agrees (r₁ r₂ : Relay) : Prop where
  pending : r₂.pending = r₁.pending
  device : r₂.device = r₁.device
  clients : r₂.clients.map Client.outside = r₁.clients.map Client.outside
  routing : r₂.routing = r₁.routing
  deviceUp : r₂.deviceUp = r₁.deviceUp
  clock : r₂.clock = r₁.clock

namespace Agrees

variable {r₁ r₂ : Relay}

theorem refl (r : Relay) : Agrees r r := ⟨rfl, rfl, rfl, rfl, rfl, rfl⟩

theorem withWork (r : Relay) (w : WorkQueue Request) (d : Dispatcher) :
    Agrees r (r.withWork w d) := ⟨rfl, rfl, rfl, rfl, rfl, rfl⟩

theorem withReader (r : Relay) (c : Nat) (change : FrameReader → FrameReader) :
    Agrees r (r.withReader c change) := by
  refine ⟨rfl, rfl, map_withClient r fun x => ?_, rfl, rfl, rfl⟩
  obtain ⟨peer, mailbox, _ | k⟩ := x <;> rfl

theorem outside (h : Agrees r₁ r₂) (c : Nat) :
    (r₂.client? c).map Client.outside = (r₁.client? c).map Client.outside := by
  unfold client?
  rw [← List.getElem?_map, ← List.getElem?_map, h.clients]

/-- The mailboxes hold the same responses. -/
theorem inbox (h : Agrees r₁ r₂) (c : Nat) : r₂.inbox c = r₁.inbox c := by
  have hfold (o : Option Client) :
      (o.map (·.mailbox.frames)).getD [] =
        ((o.map Client.outside).map (·.mailbox.frames)).getD [] := by
    cases o <;> rfl
  unfold Relay.inbox
  rw [hfold (r₂.client? c), hfold (r₁.client? c), h.outside c]

/-- The clients have got the same bytes. -/
theorem output (h : Agrees r₁ r₂) (c : Nat) :
    (r₂.client? c).map Client.output = (r₁.client? c).map Client.output := by
  have hfold (o : Option Client) :
      o.map Client.output = (o.map Client.outside).map Client.output := by
    rcases o with _ | ⟨peer, mailbox, _ | k⟩ <;> rfl
  rw [hfold (r₂.client? c), hfold (r₁.client? c), h.outside c]

end Agrees

/-- Two runs that agree all the time. The second does with each move what the first does, or
nothing that shows; the events that it lacks are collected at the end. -/
inductive Alongside : Relay → List Move → Relay → List Move → Trace → Prop where
  | nil {r₁ r₂ : Relay} (agrees : Agrees r₁ r₂) : Alongside r₁ [] r₂ [] []
  | same {r₁ r₂ : Relay} {m₁ m₂ : Move} {ms₁ ms₂ : List Move} {xs : Trace}
      (agrees : Agrees r₁ r₂) (events : (r₂.move m₂).2 = (r₁.move m₁).2)
      (rest : Alongside (r₁.move m₁).1 ms₁ (r₂.move m₂).1 ms₂ xs) :
      Alongside r₁ (m₁ :: ms₁) r₂ (m₂ :: ms₂) xs
  | skip {r₁ r₂ : Relay} {m₁ m₂ : Move} {ms₁ ms₂ : List Move} {xs : Trace}
      (agrees : Agrees r₁ r₂) (silent : (r₂.move m₂).2 = [])
      (rest : Alongside (r₁.move m₁).1 ms₁ (r₂.move m₂).1 ms₂ xs) :
      Alongside r₁ (m₁ :: ms₁) r₂ (m₂ :: ms₂) ((r₁.move m₁).2 ++ xs)

namespace Alongside

variable {r₁ r₂ : Relay} {ms₁ ms₂ : List Move} {xs : Trace}

theorem refl (r : Relay) (ms : List Move) : Alongside r ms r ms [] := by
  induction ms generalizing r with
  | nil => exact .nil (.refl r)
  | cons m ms ih => exact .same (.refl r) rfl (ih _)

theorem length_eq (h : Alongside r₁ ms₁ r₂ ms₂ xs) : ms₂.length = ms₁.length := by
  induction h with
  | nil => rfl
  | same _ _ _ ih | skip _ _ _ ih => rw [List.length_cons, List.length_cons, ih]

theorem append (h : Alongside r₁ ms₁ r₂ ms₂ xs) {ns₁ ns₂ : List Move} {ys : Trace}
    (hrest : Alongside (r₁.final ms₁) ns₁ (r₂.final ms₂) ns₂ ys) :
    Alongside r₁ (ms₁ ++ ns₁) r₂ (ms₂ ++ ns₂) (xs ++ ys) := by
  induction h with
  | nil => exact hrest
  | same agrees events _ ih => exact .same agrees events (ih hrest)
  | skip agrees silent _ ih =>
    rw [List.append_assoc]
    exact .skip agrees silent (ih hrest)

/-- At every step the relays agree, and the events are the same but for the first of those that are
left out; at the end, for all of them. -/
theorem at_step (h : Alongside r₁ ms₁ r₂ ms₂ xs) (n : Nat) :
    Agrees (r₁.final (ms₁.take n)) (r₂.final (ms₂.take n)) ∧
      ∃ ys, ys <+: xs ∧ (ms₁.length ≤ n → ys = xs) ∧
        LeftOut ys (r₁.trace (ms₁.take n)) (r₂.trace (ms₂.take n)) := by
  induction h generalizing n with
  | nil agrees =>
    rw [List.take_nil]
    exact ⟨agrees, [], List.prefix_refl _, fun _ => rfl, .nil⟩
  | same agrees events rest ih =>
    cases n with
    | zero => exact ⟨agrees, [], List.nil_prefix, fun h => absurd h (by simp), .nil⟩
    | succ n =>
      obtain ⟨hagrees, ys, hys, hend, hleft⟩ := ih n
      refine ⟨hagrees, ys, hys, fun h => hend (Nat.le_of_succ_le_succ h), ?_⟩
      rw [List.take_succ_cons, List.take_succ_cons, trace_cons, trace_cons, events]
      exact hleft.both_append _
  | @skip r₁ r₂ m₁ m₂ ms₁ ms₂ xs agrees silent rest ih =>
    cases n with
    | zero => exact ⟨agrees, [], List.nil_prefix, fun h => absurd h (by simp), .nil⟩
    | succ n =>
      obtain ⟨hagrees, ys, hys, hend, hleft⟩ := ih n
      refine ⟨hagrees, (r₁.move m₁).2 ++ ys, (List.prefix_append_right_inj _).mpr hys,
        fun h => by rw [hend (Nat.le_of_succ_le_succ h)], ?_⟩
      rw [List.take_succ_cons, List.take_succ_cons, trace_cons, trace_cons, silent]
      exact hleft.left_append _

end Alongside

end Relay

end ModbusRelay
