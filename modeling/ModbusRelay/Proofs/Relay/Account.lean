import ModbusRelay.Proofs.Relay.Run

/-!
Keeping accounts of a run.

`yields what r ms` collects what the moves of a run yield, each in the state in which it finds the
relay. What is collected in this way can be compared with what the events of the run say
(`yields_eq_filterMap`) and with where the run ends (`balance_of_moves`) by looking at one move at a
time.

No worker stops before the relay is cancelled (`move_of_stops`), and only the world cancels it
(`cancelled_move`).
-/

namespace ModbusRelay

/-- Is it a turn in which a worker notices that the relay has been cancelled? -/
def Move.stops : Move → Bool
  | .turn .stopRouter | .turn .stopDispatcher | .turn .stopAcceptor | .turn (.stopSession _) => true
  | _ => false

namespace Relay

/-! ## What the moves of a run yield -/

section Yields

variable {β γ : Type} (what : Relay → Move → List β)

/-- What the moves of a run yield, in order. -/
def yields (r : Relay) : List Move → List β
  | [] => []
  | m :: ms => what r m ++ yields (r.move m).1 ms

@[simp]
theorem yields_nil (r : Relay) : r.yields what [] = [] := rfl

theorem yields_append (r : Relay) (ms ns : List Move) :
    r.yields what (ms ++ ns) = r.yields what ms ++ (r.final ms).yields what ns := by
  induction ms generalizing r with
  | nil => rfl
  | cons m ms ih => simp [yields, ih]

theorem yields_snoc (r : Relay) (ms : List Move) (m : Move) :
    r.yields what (ms ++ [m]) = r.yields what ms ++ what (r.final ms) m := by
  rw [yields_append, yields, yields_nil, List.append_nil]

/-- What is picked from the yield of each move is picked from the yield of the run. -/
theorem yields_filterMap (f : β → Option γ) (r : Relay) (ms : List Move) :
    r.yields (fun s m => (what s m).filterMap f) ms = (r.yields what ms).filterMap f := by
  induction ms generalizing r with
  | nil => rfl
  | cons m ms ih => rw [yields, yields, List.filterMap_append, ih]

theorem yields_map (f : β → γ) (r : Relay) (ms : List Move) :
    r.yields (fun s m => (what s m).map f) ms = (r.yields what ms).map f := by
  simpa only [List.filterMap_eq_map] using yields_filterMap what (some ∘ f) r ms

/-- What each move tells in its events, the run tells in its events. -/
theorem yields_eq_filterMap (kind : RelayEvent → Option β) {r : Relay} {ms : List Move}
    (h : ∀ ps m, ps ++ [m] <+: ms →
      what (r.final ps) m = ((r.final ps).move m).2.filterMap kind) :
    r.yields what ms = (r.trace ms).filterMap kind := by
  induction ms using List.reverseRecOn with
  | nil => rfl
  | append_singleton ms m ih =>
    rw [yields_snoc, trace_append, List.filterMap_append, trace_cons, trace_nil, List.append_nil,
      h ms m (List.prefix_refl _)]
    rw [ih fun ps m' hps => h ps m' (hps.trans (List.prefix_append ms [m]))]

/-- What is read off the events of each move is read off those of the run. -/
theorem yields_events (kind : RelayEvent → Option β) (r : Relay) (ms : List Move) :
    r.yields (fun s m => (s.move m).2.filterMap kind) ms = (r.trace ms).filterMap kind :=
  yields_eq_filterMap _ kind fun _ _ _ => rfl

/-- The yield of two kinds of things, each kind by itself. -/
theorem yields_append_perm [DecidableEq β] (other : Relay → Move → List β) (r : Relay)
    (ms : List Move) : (r.yields (fun s m => what s m ++ other s m) ms).Perm
      (r.yields what ms ++ r.yields other ms) := by
  rw [List.perm_iff_count]
  intro x
  induction ms generalizing r with
  | nil => rfl
  | cons m ms ih =>
    have ih := ih (r.move m).1
    simp only [yields, List.count_append] at ih ⊢
    omega

end Yields

/-- A run balances if its moves do: what it brings in, with what was held before, is held in the end
or has been given away. -/
theorem balance_of_moves {β : Type} [DecidableEq β] (held : Relay → List β)
    (gains losses : Relay → Move → List β) {r : Relay} {ms : List Move}
    (h : ∀ ps m, ps ++ [m] <+: ms → (gains (r.final ps) m ++ held (r.final ps)).Perm
      (held ((r.final ps).move m).1 ++ losses (r.final ps) m)) :
    (r.yields gains ms ++ held r).Perm (held (r.final ms) ++ r.yields losses ms) := by
  induction ms using List.reverseRecOn with
  | nil => simp
  | append_singleton ms m ih =>
    have ih := ih fun ps m' hps => h ps m' (hps.trans (List.prefix_append ms [m]))
    have hmove := h ms m (List.prefix_refl _)
    rw [List.perm_iff_count] at ih hmove ⊢
    intro x
    have ih := ih x
    have hmove := hmove x
    simp only [yields_snoc, final_append, final_cons, final_nil, List.count_append]
      at ih hmove ⊢
    omega

/-! ## Before the relay is cancelled -/

variable {r : Relay}

/-- No worker stops unless the relay has been cancelled. -/
theorem move_of_stops (hr : r.cancelled = false) {m : Move} (hm : m.stops = true) :
    r.move m = (r, []) := by
  have hnot : ¬r.cancelled = true := by simp [hr]
  cases m with
  | input i => cases hm
  | turn t =>
    cases t with
    | stopRouter | stopAcceptor =>
      refine move_of_turn?_none ?_
      exact if_neg fun h => hnot h.1
    | stopDispatcher | stopSession c =>
      refine move_of_turn?_none ?_
      exact if_neg hnot
    | _ => cases hm

/-- No input but the cancellation cancels a relay, and none touches the listener. -/
theorem kept_apply (r : Relay) (i : Input) : (r.apply i).1.acceptor = r.acceptor ∧
    (i ≠ .cancel → (r.apply i).1.cancelled = r.cancelled) := by
  cases i with
  | cancel => exact ⟨rfl, fun hi => absurd rfl hi⟩
  | dial | startDispatcher =>
    simp only [apply]
    split <;> exact ⟨rfl, fun _ => rfl⟩
  | push =>
    simp only [apply, push]
    split <;> exact ⟨rfl, fun _ => rfl⟩
  | register =>
    simp only [apply, register]
    split <;> exact ⟨rfl, fun _ => rfl⟩
  | collect =>
    simp only [apply, collect]
    split <;> exact ⟨rfl, fun _ => rfl⟩
  | deviceSends | deviceEnds =>
    simp only [apply, withDeviceInput]
    split <;> exact ⟨rfl, fun _ => rfl⟩
  | _ => exact ⟨rfl, fun _ => rfl⟩

theorem cancelled_offer (r : Relay) (who : Requester) (f : Frame) :
    (r.offer who f).1.cancelled = r.cancelled := by
  obtain ⟨clients, e, hoffer, -⟩ := offer_cases r who f
  rw [hoffer]

theorem Turned.cancelled {t : Turn} {r' : Relay} {es : List RelayEvent} (h : Turned r t r' es) :
    r'.cancelled = r.cancelled := by
  cases h with
  | offered => exact cancelled_offer (r.withResponse _ _) _ _
  | _ => rfl

/-- Only the world cancels a relay. -/
theorem cancelled_move (r : Relay) {m : Move} (hm : m ≠ .input .cancel) :
    (r.move m).1.cancelled = r.cancelled := by
  cases m with
  | input i => exact (kept_apply r i).2 fun hi => hm (hi ▸ rfl)
  | turn t =>
    rcases r.turned_or_idle t with h | h
    · exact h.cancelled
    · rw [h]

theorem cancelled_final {ms : List Move} (hms : .input .cancel ∉ ms) :
    (r.final ms).cancelled = r.cancelled := by
  induction ms generalizing r with
  | nil => rfl
  | cons m ms ih =>
    rw [List.mem_cons, not_or] at hms
    rw [final_cons, ih hms.2, r.cancelled_move (Ne.symm hms.1)]

/-- Induction over a run that is not cancelled: no worker stops in it. -/
theorem uncancelled_induction {P : Relay → Trace → Prop} (hr : r.cancelled = false)
    (start : P r [])
    (step : ∀ r₀ es₀ m r' es, m.stops = false → P r₀ es₀ → Step r₀ m r' es → P r' (es₀ ++ es))
    {ms : List Move} (hms : .input .cancel ∉ ms) : P (r.final ms) (r.trace ms) := by
  induction ms using List.reverseRecOn with
  | nil => exact start
  | append_singleton ms m ih =>
    rw [List.mem_append, not_or] at hms
    have h := ih hms.1
    have hcancelled : (r.final ms).cancelled = false := by rw [cancelled_final hms.1, hr]
    rw [final_append, trace_append]
    cases hstops : m.stops with
    | true =>
      simp only [final_cons, final_nil, trace_cons, trace_nil, move_of_stops hcancelled hstops,
        List.append_nil]
      exact h
    | false =>
      rw [trace_cons, trace_nil, List.append_nil]
      exact step _ _ m _ _ hstops h (step_move (r.final ms) m)

end Relay

end ModbusRelay
