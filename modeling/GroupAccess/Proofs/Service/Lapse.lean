import GroupAccess.Proofs.Operation.Indifference
import GroupAccess.Proofs.Service.Alike

namespace GroupAccess

namespace Service

variable {s s' : Service} {k : Agent} {n : Instant} {lost : String → Bool} {c : Call}

def without (s : Service) (lost : String → Bool) : Service := s.storing (s.store.without lost)

theorem call_without (h : s.tables.Lapsed n lost) (hc : c.Spares lost) :
    ((s.without lost).call k c).map (fun x => (x.1.map (c.unexpired n), x.2)) =
      (s.call k c).map fun x => (x.1.map (c.unexpired n), x.2.without lost) := by
  cases he : s.plan c.method with
  | some e =>
    rw [call_planned he, call_planned (s := s.without lost) he]
    rw [Option.map_some, Option.map_some]
    refine congrArg some (Prod.ext rfl (congrArg s.storing ?_))
    split
    · exact s.store.abandon_without k lost
    · rfl
  | none =>
    have hs := congrArg (Option.map fun x => (x.1, s.storing x.2)) (s.store.call_without k h hc)
    rw [Option.map_map, Option.map_map] at hs
    rw [call_unplanned he, call_unplanned (s := s.without lost) he, Option.map_map, Option.map_map]
    exact hs

theorem call_lapsed (h : s.tables.Lapsed n lost) (hc : c.Spares lost)
    {r : Except StoreFailure c.Result} (hcall : s.call k c = some (r, s')) :
    s'.tables.Lapsed n lost := by
  cases he : s.plan c.method with
  | some e =>
    rw [call_planned he] at hcall
    cases hcall
    split
    · exact Store.abandon_lapsed h k
    · exact h
  | none =>
    rw [call_unplanned he] at hcall
    obtain ⟨x, hx, hxs⟩ := Option.map_eq_some_iff.1 hcall
    cases hxs
    exact Store.call_lapsed h hc hx

/-- The second service is the first without the tokens under some digests, which have expired. -/
structure Lapse (n : Instant) (lost : String → Bool) (s s' : Service) : Prop where
  eq : s' = s.without lost
  lapsed : s.tables.Lapsed n lost

namespace Lapse

theorem count (h : Lapse n lost s s') (e : Event) : Lapse n lost (s.count e) (s'.count e) := by
  cases h.eq
  exact ⟨rfl, h.lapsed⟩

theorem setClock (h : Lapse n lost s s') (now : Instant) :
    Lapse n lost { s with clock := now } { s' with clock := now } := by
  cases h.eq
  exact ⟨rfl, h.lapsed⟩

theorem setFaults (h : Lapse n lost s s') (tokenWrites commits : Bool) :
    Lapse n lost
      { s with store :=
        { s.store with failsTokenWrites := tokenWrites, failsCommits := commits } }
      { s' with store :=
        { s'.store with failsTokenWrites := tokenWrites, failsCommits := commits } } := by
  cases h.eq
  exact ⟨rfl, h.lapsed⟩

theorem abandon (h : Lapse n lost s s') (k : Agent) :
    Lapse n lost (s.storing (s.store.abandon k)) (s'.storing (s'.store.abandon k)) := by
  cases h.eq
  refine ⟨?_, Store.abandon_lapsed h.lapsed k⟩
  exact congrArg s.storing (s.store.abandon_without k lost)

/-- Without the expired tokens a call has to wait as it has with them, or it is answered alike. -/
theorem call (h : Lapse n lost s s') (k : Agent) (hc : c.Spares lost) :
    s.call k c = none ∧ s'.call k c = none ∨
      ∃ r t r' t', s.call k c = some (r, t) ∧ s'.call k c = some (r', t') ∧
        r.map (c.unexpired n) = r'.map (c.unexpired n) ∧ Lapse n lost t t' := by
  have hw := call_without (k := k) h.lapsed hc
  rw [← h.eq] at hw
  cases hr : s.call k c with
  | none =>
    rw [hr] at hw
    exact .inl ⟨rfl, Option.map_eq_none_iff.1 hw⟩
  | some x =>
    rw [hr] at hw
    obtain ⟨x', hr', hx⟩ := Option.map_eq_some_iff.1 hw
    obtain ⟨hanswer, hstore⟩ := Prod.mk.inj hx
    exact .inr ⟨x.1, x.2, x'.1, x'.2, rfl, hr', hanswer.symm, hstore, call_lapsed h.lapsed hc hr⟩

end Lapse

end Service

open Program

namespace Service.Lapse

variable {α : Type} {v : α → α} {s s' : Service} {n : Instant} {lost : String → Bool}

/-- An operation that begins when the tokens have expired has the same program on both. -/
theorem program (h : Lapse n lost s s') {o : Operation} {d : Draws} (hn : n ≤ s.clock)
    (hd : o.storesSecret = true → lost d.secret.digest = false) :
    Indifferent n lost o.uncounted (o.program s.policy s.clock d)
      (o.program s'.policy s'.clock d) := by
  cases h.eq
  exact program_indifferent s.policy hn hd

/-- Programs that are indifferent end alike without the expired tokens. -/
theorem run {p p' : Program α} (hp : Indifferent n lost v p p') (h : Lapse n lost s s')
    (k : Agent) :
    (Service.run k p s).1.map (Except.map v) = (Service.run k p' s').1.map (Except.map v) ∧
      Lapse n lost (Service.run k p s).2 (Service.run k p' s').2 := by
  -- On the programs side by side; each call leaves services that lack the same tokens.
  induction hp generalizing s s' with
  | done hr => exact ⟨congrArg some hr, h⟩
  | count e _ ih => exact ih (h.count e)
  | call hc _ ih =>
    rcases h.call k hc with ⟨hr, hr'⟩ | ⟨r, t, r', t', hr, hr', hanswer, ht⟩
    · rw [Service.run, Service.run, hr, hr']
      exact ⟨rfl, h.abandon k⟩
    · rw [run_call hr, run_call hr']
      exact ih r r' hanswer ht

theorem perform (h : Lapse n lost s s') {o : Operation} {d : Draws} (hn : n ≤ s.clock)
    (hd : o.storesSecret = true → lost d.secret.digest = false) :
    (s.perform o d).1.map o.uncounted = (s'.perform o d).1.map o.uncounted ∧
      Lapse n lost (s.perform o d).2 (s'.perform o d).2 := by
  obtain ⟨hr, ht⟩ := h.run (h.program hn hd) worker
  have htimeout : (Service.run worker (o.program s.policy s.clock d) s).2.timedOut o.name =
      (Service.run worker (o.program s'.policy s'.clock d) s').2.timedOut o.name := by
    rw [ht.eq]
    rfl
  refine ⟨?_, ht.count _⟩
  rw [perform_run, perform_run]
  dsimp only
  rw [← Option.getD_map (Except.map o.uncounted), ← Option.getD_map (Except.map o.uncounted), hr,
    htimeout]

end Service.Lapse

end GroupAccess
