import GroupAccess.Proofs.Interleaving.Lapse

namespace GroupAccess

namespace Tables

variable (t : Tables) (n : Instant)

theorem lapsed_lapsed : t.Lapsed n (t.lapsed n) := by
  intro k r hk hr
  obtain ⟨r', hr', he⟩ := t.lapsed_eq_true.1 hk
  cases hr.symm.trans hr'
  exact he

/-- Each token is taken or left. -/
theorem size_purgeTokens :
    t.tokens.size - (t.purgeTokens n).tokens.size =
      t.tokens.rows.countP fun r => r.isExpired n := by
  have hleft : (t.purgeTokens n).tokens.size =
      t.tokens.entries.countP fun e => decide ¬e.2.isExpired n = true := by
    rw [purgeTokens_eq, List.countP_eq_length_filter]
    simp only [Bool.not_eq_true, Bool.decide_eq_false]
    rfl
  have hall := t.tokens.entries.length_eq_countP_add_countP fun e => e.2.isExpired n
  rw [hleft, Table.size, Table.rows, List.countP_map, hall, Nat.add_sub_cancel]
  rfl

end Tables

namespace Service

/-- The instants at which the operations of a session begin. -/
def readings (s : Service) : List Step → List Instant
  | [] => []
  | x :: rest => (if x.draws.isSome then [s.clock] else []) ++ (s.step x).readings rest

/-- The operations of a session and what they came to. -/
def performed (s : Service) : List Step → List Performed
  | [] => []
  | .perform o d :: rest => ⟨o, (s.perform o d).1⟩ :: (s.perform o d).2.performed rest
  | x :: rest => (s.step x).performed rest

variable {s s' : Service} {n : Instant} {lost : String → Bool}

theorem Lapse.performed (h : Lapse n lost s s') {steps : List Step}
    (hn : ∀ now ∈ s.readings steps, n ≤ now)
    (hd : ∀ o d, .perform o d ∈ steps → o.storesSecret = true → lost d.secret.digest = false) :
    (s.performed steps).map Performed.uncounted = (s'.performed steps).map Performed.uncounted := by
  induction steps generalizing s s' with
  | nil => rfl
  | cons x rest ih =>
    have hlater := fun now hnow => hn now (List.mem_append_right _ hnow)
    have hrest := fun o d hx => hd o d (List.mem_cons_of_mem _ hx)
    cases x with
    | perform o d =>
      obtain ⟨hr, ht⟩ := h.perform (hn s.clock (List.mem_append_left _ (List.mem_singleton_self _)))
        (hd o d (List.mem_cons_self ..))
      have hp := congrArg (Performed.mk o) hr
      exact congrArg₂ List.cons hp (ih ht hlater hrest)
    | setClock now => exact ih (h.setClock now) hlater hrest
    | setFaults tokenWrites commits => exact ih (h.setFaults tokenWrites commits) hlater hrest

/-- A purge leaves a service that lacks the tokens that have expired. -/
theorem lapse_purge (s : Service) (n : Instant) :
    Lapse n (s.tables.lapsed n) s (s.put (s.tables.purgeTokens n)) := by
  refine ⟨?_, s.tables.lapsed_lapsed n⟩
  rw [Tables.purgeTokens_eq_without]
  rfl

end Service

/-- A purge takes exactly the tokens that have expired, tells how many they were, and changes
nothing else. Operations that begin no earlier, and draw no secret of those tokens, give the same
results with and without it, in a session as well as at the same time in any order; only what
further purges count differs. -/
theorem purge_unnoticed (s : Service) (n : Instant) :
    let t := s.tables.purgeTokens n
    (s.store.held = none → ∀ k, s.store.call k (.purgeTokens n) =
        some (.ok (s.tables.tokens.rows.countP fun r => r.isExpired n), (s.put t).store)) ∧
      (∀ digest, t.tokens.get? digest =
        (s.tables.tokens.get? digest).filter fun r => !r.isExpired n) ∧
      t = { s.tables with tokens := t.tokens } ∧
      (∀ steps, (∀ now ∈ s.readings steps, n ≤ now) →
        (∀ o d, .perform o d ∈ steps → o.storesSecret = true →
          s.tables.lapsed n d.secret.digest = false) →
        ((s.put t).performed steps).map Performed.uncounted =
          (s.performed steps).map Performed.uncounted) ∧
      ∀ actions, (∀ now ∈ (World.mk s []).readings actions, n ≤ now) →
        (∀ o d, .start o d ∈ actions → o.storesSecret = true →
          s.tables.lapsed n d.secret.digest = false) →
        (((World.mk (s.put t) []).after actions).tasks.map fun task =>
            task.performed?.map Performed.uncounted) =
          ((World.mk s []).after actions).tasks.map fun task =>
            task.performed?.map Performed.uncounted := by
  intro t
  refine ⟨fun hh k => ?_, fun digest => ?_, rfl, fun steps hn hd => ?_, fun actions hn hd => ?_⟩
  · obtain ⟨policy, timeoutMillis, clock, ⟨tables, held, tokenWrites, commits⟩, plan, counters⟩ := s
    cases hh
    exact congrArg (fun count => some (Except.ok count, _)) (tables.size_purgeTokens n)
  · simp only [t, Tables.purgeTokens_eq, Table.get?_filter]
  · exact ((s.lapse_purge n).performed hn hd).symm
  · have hw : World.Lapse n (s.tables.lapsed n) ⟨s, []⟩ ⟨s.put t, []⟩ := ⟨s.lapse_purge n, .nil⟩
    exact (hw.after hn hd).performed.symm

namespace Sample

def later : Instant := ⟨1000000000, by decide⟩

/-- A token of the guest with the secret of `draws m`. -/
def guestToken (m : UInt8) (expiry : Option Instant) : SecretRecord :=
  ⟨⟨uuid m⟩, guest, (draws m).secret.digest, expiry, clock⟩

/-- The guest has a token that has expired and one that never does. -/
def carrying : Service :=
  { service.put {
      users := Table.empty.insert guest ⟨guest, "g@b.c", "", clock⟩
      tokens := (Table.empty.insert (draws 1).secret.digest (guestToken 1 (some clock))).insert
        (draws 2).secret.digest (guestToken 2 none) } with clock := later }

/-- Both tokens are shown, a new one is made, and the expired ones are purged. -/
def visits : List Step :=
  [.perform (.resolveToken (draws 1).secret.text) (draws 3),
    .perform (.resolveToken (draws 2).secret.text) (draws 4),
    .perform (.issueApiKey guest) (draws 5), .perform .purgeTokens (draws 6)]

/-- The expired token is purged while it and the other one are shown. -/
def crossing : List Action :=
  [.start (.resolveToken (draws 1).secret.text) (draws 3),
    .start (.resolveToken (draws 2).secret.text) (draws 4), .start .purgeTokens (draws 6), .move 1,
    .move 2, .move 0, .move 1]

end Sample

open Sample in
/-- The expired token is gone after the purge and nothing that follows shows it, except that the
next purge finds nothing. -/
theorem purge_unnoticed_sample :
    carrying.store.held = none ∧
      carrying.store.call 0 (.purgeTokens later) =
        some (.ok 1, (carrying.put (carrying.tables.purgeTokens later)).store) ∧
      (carrying.tables.purgeTokens later).tokens.get? (draws 1).secret.digest = none ∧
      (carrying.tables.purgeTokens later).tokens.get? (draws 2).secret.digest =
        some (guestToken 2 none) ∧
      (∀ now ∈ carrying.readings visits, later ≤ now) ∧
      ((carrying.put (carrying.tables.purgeTokens later)).performed visits).map
          Performed.uncounted =
        (carrying.performed visits).map Performed.uncounted ∧
      (carrying.perform .purgeTokens (draws 6)).1 = .ok 1 ∧
      ((carrying.put (carrying.tables.purgeTokens later)).perform .purgeTokens (draws 6)).1 =
        .ok 0 ∧
      (∀ now ∈ (World.mk carrying []).readings crossing, later ≤ now) ∧
      (((World.mk (carrying.put (carrying.tables.purgeTokens later)) []).after crossing).tasks.map
          fun task => task.performed?.map Performed.uncounted) =
        ((World.mk carrying []).after crossing).tasks.map
          fun task => task.performed?.map Performed.uncounted := by
  obtain ⟨hcall, hget, -, hsession, hworld⟩ := purge_unnoticed carrying later
  -- All that is computed stands in one statement, so that each digest is computed once.
  obtain ⟨hcount, hgone, hleft, hnew, hvisits, hcrossing, hone, hnone⟩ :
      carrying.tables.tokens.rows.countP (fun r => r.isExpired later) = 1 ∧
        (carrying.tables.tokens.get? (draws 1).secret.digest).filter
          (fun r => !r.isExpired later) = none ∧
        (carrying.tables.tokens.get? (draws 2).secret.digest).filter
          (fun r => !r.isExpired later) = some (guestToken 2 none) ∧
        carrying.tables.lapsed later (draws 5).secret.digest = false ∧
        (∀ now ∈ carrying.readings visits, later ≤ now) ∧
        (∀ now ∈ (World.mk carrying []).readings crossing, later ≤ now) ∧
        (carrying.perform .purgeTokens (draws 6)).1 = .ok 1 ∧
        ((carrying.put (carrying.tables.purgeTokens later)).perform .purgeTokens (draws 6)).1 =
          .ok 0 := by
    decide +kernel
  refine ⟨rfl, ?_, (hget _).trans hgone, (hget _).trans hleft, hvisits,
    hsession visits hvisits ?_, hone, hnone, hcrossing, hworld crossing hcrossing ?_⟩
  · rw [hcall rfl 0, hcount]
  · intro o d hx ho
    simp only [visits, List.mem_cons, Step.perform.injEq, List.not_mem_nil, or_false] at hx
    rcases hx with ⟨rfl, -⟩ | ⟨rfl, -⟩ | ⟨rfl, rfl⟩ | ⟨rfl, -⟩
    · cases ho
    · cases ho
    · exact hnew
    · cases ho
  · intro o d hx ho
    simp only [crossing, List.mem_cons, Action.start.injEq, List.not_mem_nil, or_false,
      reduceCtorEq] at hx
    rcases hx with ⟨rfl, -⟩ | ⟨rfl, -⟩ | ⟨rfl, -⟩
    all_goals cases ho

end GroupAccess
