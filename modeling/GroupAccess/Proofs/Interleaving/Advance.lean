import GroupAccess.Proofs.Interleaving.World

namespace GroupAccess

variable {α : Type} {s : Service} {a : Agent}

namespace Service

theorem settle_eq (p : Program α) (s : Service) :
    ∃ c, settle p s = (p.settled, { s with counters := c }) := by
  induction p generalizing s with
  | done r => exact ⟨s.counters, rfl⟩
  | count e next ih => exact ih (s.count e)
  | call c next => exact ⟨s.counters, rfl⟩

theorem advance_done {p : Program α} {r : Except Refusal α} (hs : p.settled = .done r) :
    ∃ k, s.advance a p = (p.settled, { s with counters := k }) ∧ s.answer? a p = none := by
  obtain ⟨k, hk⟩ := settle_eq p s
  rw [hs] at hk
  refine ⟨k, ?_, ?_⟩
  · rw [advance, hk, hs]
  · rw [answer?, hk]

section

variable {p : Program α} {c : Call} {next : Except StoreFailure c.Result → Program α}

/-- Counters do not matter to a call. -/
theorem call_counters (hp : s.plan = .none) (k : Counters) :
    ({ s with counters := k } : Service).call a c =
      (s.store.call a c).map fun (r, store) => (r, { s with store, counters := k }) := by
  rw [Service.call, hp]
  rfl

theorem advance_waiting (hp : s.plan = .none) (hs : p.settled = .call c next)
    (hc : s.store.call a c = none) :
    ∃ k, s.advance a p = (p.settled, { s with counters := k }) ∧ s.answer? a p = none := by
  obtain ⟨k, hk⟩ := settle_eq p s
  rw [hs] at hk
  refine ⟨k, ?_, ?_⟩
  · simp only [advance, hk, call_counters hp, hc, Option.map_none, hs]
  · simp only [answer?, hk, call_counters hp, hc, Option.map_none]

theorem advance_answered (hp : s.plan = .none) (hs : p.settled = .call c next)
    {r : Except StoreFailure c.Result} {store : Store}
    (hc : s.store.call a c = some (r, store)) :
    ∃ k, s.advance a p = ((next r).settled, { s with store, counters := k }) ∧
      s.answer? a p = some (c.method, r.isOk) := by
  obtain ⟨k, hk⟩ := settle_eq p s
  rw [hs] at hk
  obtain ⟨k', hk'⟩ := settle_eq (next r) { s with store, counters := k }
  refine ⟨k', ?_, ?_⟩
  · simp only [advance, hk, call_counters hp, hc, Option.map_some]
    exact hk'
  · simp only [answer?, hk, call_counters hp, hc, Option.map_some]

end

/-- The call that was answered. -/
theorem answer?_eq_some (hp : s.plan = .none) {p : Program α} {m : Method} {ok : Bool}
    (h : s.answer? a p = some (m, ok)) :
    ∃ c next r store, p.settled = .call c next ∧ s.store.call a c = some (r, store) ∧
      c.method = m ∧ r.isOk = ok := by
  cases hs : p.settled with
  | done r =>
    obtain ⟨-, -, hn⟩ := s.advance_done (a := a) hs
    cases hn.symm.trans h
  | count e next => exact absurd hs p.settled_ne_count
  | call c next =>
    cases hc : s.store.call a c with
    | none =>
      obtain ⟨-, -, hn⟩ := s.advance_waiting hp hs hc
      cases hn.symm.trans h
    | some answer =>
      obtain ⟨r, store⟩ := answer
      obtain ⟨-, -, hn⟩ := s.advance_answered hp hs hc
      cases hn.symm.trans h
      exact ⟨c, next, r, store, rfl, hc, rfl, rfl⟩

end Service

namespace Task

variable {o : Operation} {p : Program o.Result} (d : Draws) (calls : List (Method × Bool))

theorem move_done (a : Agent) (s : Service) {r : Except Refusal o.Result}
    (hs : p.settled = .done r) :
    ∃ k, move a ⟨o, d, some p, calls⟩ s =
      (⟨o, d, some p.settled, calls⟩, { s with counters := k }) := by
  obtain ⟨k, hk, hn⟩ := s.advance_done (a := a) hs
  refine ⟨k, ?_⟩
  simp only [move, hk, hn, Option.toList_none, List.nil_append]

theorem move_answered (hp : s.plan = .none) {c : Call}
    {next : Except StoreFailure c.Result → Program o.Result} (hs : p.settled = .call c next)
    {r : Except StoreFailure c.Result} {store : Store}
    (hc : s.store.call a c = some (r, store)) :
    ∃ k, move a ⟨o, d, some p, calls⟩ s =
      (⟨o, d, some (next r).settled, (c.method, r.isOk) :: calls⟩,
        { s with store, counters := k }) := by
  obtain ⟨k, hk, hn⟩ := s.advance_answered hp hs hc
  refine ⟨k, ?_⟩
  simp only [move, hk, hn, Option.toList_some, List.singleton_append]

/-- A task waits or has nothing left to do, or its next call is answered. -/
theorem move_cases (hp : s.plan = .none) (a : Agent) (p : Program o.Result) :
    ∃ k, move a ⟨o, d, some p, calls⟩ s =
        (⟨o, d, some p.settled, calls⟩, { s with counters := k }) ∨
      ∃ c next r store, p.settled = .call c next ∧ s.store.call a c = some (r, store) ∧
        move a ⟨o, d, some p, calls⟩ s =
          (⟨o, d, some (next r).settled, (c.method, r.isOk) :: calls⟩,
            { s with store, counters := k }) := by
  cases hs : p.settled with
  | done r =>
    obtain ⟨k, hk⟩ := move_done d calls a s hs
    exact ⟨k, .inl (hs ▸ hk)⟩
  | count e next => exact absurd hs p.settled_ne_count
  | call c next =>
    cases hc : s.store.call a c with
    | none =>
      obtain ⟨k, hk, hn⟩ := s.advance_waiting hp hs hc
      refine ⟨k, .inl ?_⟩
      simp only [move, hk, hn, hs, Option.toList_none, List.nil_append]
    | some answer =>
      obtain ⟨r, store⟩ := answer
      obtain ⟨k, hk⟩ := move_answered d calls hp hs hc
      exact ⟨k, .inr ⟨c, next, r, store, rfl, hc, hk⟩⟩

theorem move_plan (hp : s.plan = .none) (t : Task) : (t.move a s).2.plan = .none := by
  obtain ⟨o, d, rest, calls⟩ := t
  cases rest with
  | none => exact hp
  | some p =>
    obtain ⟨k, hk | ⟨c, next, r, store, -, -, hk⟩⟩ := move_cases d calls hp a p
    · rw [hk]
      exact hp
    · rw [hk]
      exact hp

theorem drop_plan (t : Task) : (t.drop a s).2.plan = s.plan := by
  unfold drop
  split <;> rfl

end Task

namespace World

theorem step_plan {w : World} (hp : w.service.plan = .none) (x : Action) :
    (w.step x).service.plan = .none := by
  cases x with
  | start | setClock | setFaults => exact hp
  | move a => exact act_cases (P := fun v => v.service.plan = .none) hp fun t _ => t.move_plan hp
  | drop a =>
    exact act_cases (P := fun v => v.service.plan = .none) hp fun t _ => t.drop_plan.trans hp

theorem after_plan {w : World} (hp : w.service.plan = .none) (actions : List Action) :
    (w.after actions).service.plan = .none := by
  induction actions generalizing w with
  | nil => exact hp
  | cons x actions ih => exact ih (step_plan hp x)

end World

end GroupAccess
