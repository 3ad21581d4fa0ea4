import GroupAccess.Proofs.Operation.Footprint
import GroupAccess.Store.Basic

namespace GroupAccess.Store

variable {s s' : Store} {a b k : Agent} {c : Call} {r : Except StoreFailure c.Result}

theorem atomic_eq_some {α : Type} {f : Tables → Except StoreFailure α × Tables}
    {r : Except StoreFailure α} (h : s.atomic f = some (r, s')) :
    s.held = none ∧ s' = { s with tables := (f s.tables).2 } := by
  unfold atomic at h
  split at h
  · cases h
  · rename_i hn
    cases h
    exact ⟨hn, rfl⟩

/-- A write is refused, which changes nothing, or made on tables that nobody holds. -/
theorem write_cases {f : Tables → Except StoreFailure Tables} {r : Except StoreFailure Unit}
    (h : s.write f = some (r, s')) :
    s' = s ∨ ∃ t, f s.tables = .ok t ∧ s.held = none ∧ s' = { s with tables := t } := by
  obtain ⟨hn, rfl⟩ := atomic_eq_some h
  cases hf : f s.tables with
  | ok t => exact .inr ⟨t, rfl, hn, rfl⟩
  | error e => exact .inl rfl

theorem within_eq_some {α : Type}
    {f : Transaction → Tables → Except StoreFailure α × Option Transaction × Tables}
    {r : Except StoreFailure α} (h : s.within a f = some (r, s')) :
    ∃ x, s.held = some (a, x) ∧
      s' = { s with tables := (f x s.tables).2.2, held := (f x s.tables).2.1.map (a, ·) } := by
  unfold within at h
  split at h
  · rename_i k x hx
    split at h
    · subst k
      cases h
      exact ⟨x, hx, rfl⟩
    · cases h
  · cases h

theorem call_createUser {u : User} {r : Except StoreFailure Unit}
    (hc : s.call a (.createUser u) = some (r, s')) :
    s' = s ∨ s.held = none ∧ s' = { s with tables := { s.tables with
      users := s.tables.users.insert u.id u } } := by
  rw [call] at hc
  obtain rfl | ⟨t, ht, hn, rfl⟩ := write_cases hc
  · exact .inl rfl
  · unfold Tables.createUser at ht
    split at ht
    · cases ht
    · cases ht
      exact .inr ⟨hn, rfl⟩

theorem call_createToken {record : SecretRecord} {r : Except StoreFailure Unit}
    (hc : s.call a (.createToken record) = some (r, s')) :
    s' = s ∨ s.held = none ∧ s' = { s with tables := { s.tables with
      tokens := s.tables.tokens.insert record.digest record } } := by
  rw [call] at hc
  split at hc
  · cases hc
    exact .inl rfl
  obtain rfl | ⟨t, ht, hn, rfl⟩ := write_cases hc
  · exact .inl rfl
  · unfold Tables.createToken at ht
    split at ht
    · cases ht
    · cases ht
      exact .inr ⟨hn, rfl⟩

theorem call_createGroup {g : Group} {owner : Membership} {r : Except StoreFailure Unit}
    (hc : s.call a (.createGroup g owner) = some (r, s')) :
    s' = s ∨ s.held = none ∧ s' = { s with tables := { s.tables with
      groups := s.tables.groups.insert g.id g
      memberships := s.tables.memberships.insert owner.key owner } } := by
  rw [call] at hc
  obtain rfl | ⟨t, ht, hn, rfl⟩ := write_cases hc
  · exact .inl rfl
  · unfold Tables.createGroup at ht
    split at ht
    · cases ht
    · cases ht
      exact .inr ⟨hn, rfl⟩

theorem call_createInvite {i : Invite} {r : Except StoreFailure Unit}
    (hc : s.call a (.createInvite i) = some (r, s')) :
    s.held = none ∧ r = .ok () ∧ s' = { s with tables := s.tables.createInvite i } := by
  obtain ⟨t, held, tokens, fails⟩ := s
  cases held with
  | some y => cases hc
  | none =>
    cases hc
    exact ⟨rfl, rfl, rfl⟩

theorem call_findGroup {id : GroupId} {r : Except StoreFailure (Option Group)}
    (hc : s.call a (.findGroup id) = some (r, s')) :
    r = .ok (s.tables.groups.get? id) ∧ s' = s := by
  obtain ⟨t, held, tokens, fails⟩ := s
  cases held with
  | some y => cases hc
  | none =>
    cases hc
    exact ⟨rfl, rfl⟩

/-- A write other than of an invite loses invites or leaves them as they are. -/
def KeepsInvites (t u : Tables) : Prop :=
  ∀ id i, u.invites.get? id = some i → t.invites.get? id = some i

theorem KeepsInvites.of_eq {t u : Tables} (h : u.invites = t.invites) : KeepsInvites t u := by
  intro id i hi
  rwa [h] at hi

/-- The ways in which a call by a method is answered, with the store after each. -/
inductive Answered (s : Store) (a : Agent) (m : Method) : Store → Prop
  /-- The call does not need the tables. -/
  | beside (ht : m.transacts = false) (hm : m ≠ .createInvite) : Answered s a m s
  /-- One step on tables that nobody holds. -/
  | atomic (ht : m.transacts = false) (hh : s.held = none) (t : Tables)
      (hi : m ≠ .createInvite → KeepsInvites s.tables t) : Answered s a m { s with tables := t }
  | begin (hm : m = .begin) (hh : s.held = none) :
      Answered s a m { s with held := some (a, ⟨[], s.failsCommits⟩) }
  /-- One step in the transaction of the agent, which it may end. -/
  | within (ht : m.transacts = true) {x : Transaction} (hh : s.held = some (a, x)) (t : Tables)
      (y : Option Transaction) : Answered s a m { s with tables := t, held := y.map (a, ·) }

theorem call_answered (hc : s.call a c = some (r, s')) : Answered s a c.method s' := by
  cases c with
  | begin =>
    rw [call] at hc
    split at hc
    · cases hc
    · cases hc
      exact .begin rfl ‹_›
  | decrement _ | insertMembership _ | commit | rollback =>
    rw [call] at hc
    obtain ⟨x, hx, rfl⟩ := within_eq_some hc
    exact .within rfl hx _ _
  | health =>
    cases hc
    exact .beside rfl nofun
  | createUser u =>
    obtain rfl | ⟨hn, rfl⟩ := call_createUser hc
    · exact .beside rfl nofun
    · exact .atomic rfl hn _ fun _ => .of_eq rfl
  | createToken record =>
    obtain rfl | ⟨hn, rfl⟩ := call_createToken hc
    · exact .beside rfl nofun
    · exact .atomic rfl hn _ fun _ => .of_eq rfl
  | createGroup g owner =>
    obtain rfl | ⟨hn, rfl⟩ := call_createGroup hc
    · exact .beside rfl nofun
    · exact .atomic rfl hn _ fun _ => .of_eq rfl
  | createInvite i =>
    rw [call] at hc
    obtain ⟨hn, rfl⟩ := atomic_eq_some hc
    exact .atomic rfl hn _ fun hm => absurd rfl hm
  | createRole role fresh =>
    rw [call] at hc
    obtain ⟨hn, rfl⟩ := atomic_eq_some hc
    exact .atomic rfl hn _ fun _ => .of_eq (Tables.createRole_invites ..)
  | deleteUser user =>
    rw [call] at hc
    obtain ⟨hn, rfl⟩ := atomic_eq_some hc
    refine .atomic rfl hn _ fun _ id i hi => ?_
    split at hi
    · exact (Table.get?_filter_eq_some.1 hi).1
    · exact hi
  | _ =>
    rw [call] at hc
    obtain ⟨hn, rfl⟩ := atomic_eq_some hc
    exact .atomic rfl hn _ fun _ => .of_eq rfl

/-- A call opens and ends no transaction but one of the caller. -/
theorem call_others (hc : s.call a c = some (r, s')) (hb : b ≠ a) {x : Transaction} :
    s'.held = some (b, x) ↔ s.held = some (b, x) := by
  cases call_answered hc with
  | beside | atomic => rfl
  | begin hm hh => simp [hh, hb.symm]
  | within ht hh t y => cases y <;> simp [hh, hb.symm]

theorem abandon_others (hb : b ≠ a) {x : Transaction} :
    (s.abandon a).held = some (b, x) ↔ s.held = some (b, x) := by
  unfold abandon
  split
  · exact call_others ‹_› hb
  · rfl

/-- While a transaction is open, nobody else changes anything. -/
theorem call_beside {x : Transaction} (hh : s.held = some (k, x)) (ha : a ≠ k)
    (hc : s.call a c = some (r, s')) :
    s' = s ∧ c.method.transacts = false ∧ c.method ≠ .createInvite := by
  cases call_answered hc with
  | beside ht hm => exact ⟨rfl, ht, hm⟩
  | atomic ht hn => cases hn.symm.trans hh
  | begin hm hn => cases hn.symm.trans hh
  | within ht hx => cases hx.symm.trans hh; exact absurd rfl ha

end GroupAccess.Store
