import GroupAccess.Proofs.Operation.Outcome

namespace GroupAccess.Service

variable {α : Type} {s : Service} {k : Agent}

/-- A call that only looks has to wait, or leaves everything as it was. -/
theorem call_looks {c : Call} (hc : c.method.reads = true) :
    s.call k c = none ∨ ∃ r, s.call k c = some (r, s) := by
  have hn : c.method ≠ .commit := by
    intro he
    rw [he] at hc
    cases hc
  cases hp : s.plan c.method with
  | some e =>
    right
    simp only [call, hp, if_neg hn]
    exact ⟨.error e, rfl⟩
  | none =>
    simp only [call, hp]
    cases hh : s.store.held with
    | none =>
      obtain ⟨a, ha⟩ := s.store.call_reads (k := k) hh hc
      rw [ha]
      exact .inr ⟨.ok a, rfl⟩
    | some held =>
      by_cases hm : c.method = .health
      · right
        cases c <;> cases hm
        exact ⟨.ok (), rfl⟩
      · left
        rw [s.store.call_held (by rw [hh]; rfl) hc hm]
        rfl

/-- Whatever is made to fail, a program that only looks leaves all but the counters as it was. -/
theorem run_looks (hf : s.store.holding k = none) {p : Program α}
    (hp : Program.Calls (fun c => c.method.reads = true) p) :
    ∃ r c, run k p s = (r, s.leaving s.tables c) := by
  induction hp generalizing s with
  | done r => exact ⟨some r, s.counters, rfl⟩
  | count e _ ih =>
    obtain ⟨r, c, hr⟩ := ih (s := s.count e) hf
    exact ⟨r, c, hr⟩
  | call hc _ ih =>
    rcases s.call_looks (k := k) hc with hw | ⟨a, ha⟩
    · refine ⟨none, s.counters, ?_⟩
      rw [run, hw, Store.abandon_stranger hf]
      rfl
    · obtain ⟨r, c, hr⟩ := ih a hf
      exact ⟨r, c, (run_call ha).trans hr⟩

theorem perform_looks (hf : s.store.holding worker = none) {o : Operation}
    (hm : o.methods.all Method.reads = true) (d : Draws) :
    ∃ c, (s.perform o d).2 = s.leaving s.tables c := by
  have hp := (program_calls s.policy s.clock d o).mono fun c => List.all_eq_true.1 hm c.method
  obtain ⟨r, c, hr⟩ := run_looks hf hp
  rw [perform, hr]
  exact ⟨c.add (.operation o.name), rfl⟩

/-- No call is made to fail, and the tables are held by another agent's transaction. -/
structure Blocked (s : Service) (k : Agent) : Prop where
  plan : s.plan = .none
  held : s.store.held.isSome = true
  stranger : s.store.holding k = none

theorem idle_or_blocked (hp : s.plan = .none) (hf : s.store.holding k = none) :
    s.Idle ∨ s.Blocked k := by
  cases hh : s.store.held with
  | none => exact .inl ⟨hp, hh⟩
  | some held => exact .inr ⟨hp, by rw [hh]; rfl, hf⟩

/-- While the tables are held, a program that asks them is given up; one that does not ask them ends
as it does on any other service. -/
theorem Blocked.run_cases (h : s.Blocked k) {p : Program α}
    (hp : Program.Calls (fun c => c.method.reads = true ∧ c.method ≠ .health) p) :
    (run k p s).1 = none ∨ ∀ s' : Service, (run k p s').1 = (run k p s).1 := by
  induction hp generalizing s with
  | done r => exact .inr fun _ => rfl
  | count e _ ih =>
    have hs : (s.count e).Blocked k := ⟨h.plan, h.held, h.stranger⟩
    rcases ih hs with hn | hsame
    · exact .inl hn
    · exact .inr fun s' => hsame (s'.count e)
  | @call c _ hc =>
    have hw : s.call k c = none := by
      rw [call, h.plan]
      simp only [Plan.none, Store.call_held h.held hc.1 hc.2, Option.map_none]
    left
    rw [run, hw]

theorem Blocked.perform_cases (h : s.Blocked worker) {o : Operation}
    (hm : ∀ m ∈ o.methods, m.reads = true ∧ m ≠ .health) (d : Draws) :
    (s.perform o d).1 = .error (s.timedOut o.name) ∨
      ∀ s' : Service, s'.policy = s.policy → s'.clock = s.clock →
        (s'.perform o d).1 = (s.perform o d).1 := by
  have hp := (program_calls s.policy s.clock d o).mono fun c => hm c.method
  obtain ⟨r, c, hr⟩ := run_looks h.stranger (hp.mono fun _ hc => hc.1)
  cases r with
  | none =>
    left
    rw [perform, hr]
    rfl
  | some r =>
    right
    intro s' hpolicy hclock
    rcases h.run_cases hp with hn | hsame
    · rw [hr] at hn
      cases hn
    · have hr' := hsame s'
      rw [hr] at hr'
      simp only [perform, hpolicy, hclock, hr, hr', Option.getD_some]

end GroupAccess.Service
