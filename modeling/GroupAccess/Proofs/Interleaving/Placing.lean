import GroupAccess.Proofs.Interleaving.Advance
import GroupAccess.Proofs.Interleaving.Task
import GroupAccess.Proofs.Operation.Grounding

namespace GroupAccess

open Program

/-- What is left of a redemption, with the rows that it relies on. While its transaction is open
nobody else can take them away. -/
inductive Admitting (s : Store) (a : Agent) : Program Membership → Prop
  | waiting {id : InviteId} {user : UserId} : Admitting s a (Invites.redeem id user)
  | opened {id : InviteId} {user : UserId} {x : Transaction} (hh : s.held = some (a, x)) :
      Admitting s a (Invites.opened id user)
  | taken {x : Transaction} {m : Membership} {id : InviteId} {i : Invite}
      (hh : s.held = some (a, x)) (hi : s.tables.invites.get? id = some i)
      (hg : i.group = m.group) : Admitting s a (Invites.taken m)
  | entered {x : Transaction} {m : Membership} (hh : s.held = some (a, x))
      (hm : s.tables.memberships.get? m.key = some m) : Admitting s a (Invites.entered m)
  | refused {x : Transaction} {e : Refusal} (hh : s.held = some (a, x)) :
      Admitting s a (Invites.refused e)
  | ended (r : Except Refusal Membership) : Admitting s a (.done r)

namespace Admitting

variable {s s' : Store} {a : Agent} {p : Program Membership}

theorem settled_eq (h : Admitting s a p) : p.settled = p := by
  cases h with
  | waiting => rw [Invites.redeem_settled, Invites.redeem_eq]
  | _ => rfl

/-- A redemption relies on nothing unless it holds the tables. -/
theorem beside (h : Admitting s a p) (hs : ∀ x, s.held = some (a, x) →
    s'.tables = s.tables ∧ s'.held = s.held) : Admitting s' a p := by
  cases h with
  | waiting => exact waiting
  | opened hh => exact opened ((hs _ hh).2.trans hh)
  | taken hh hi hg => exact taken ((hs _ hh).2.trans hh) (by rwa [(hs _ hh).1]) hg
  | entered hh hm => exact entered ((hs _ hh).2.trans hh) (by rwa [(hs _ hh).1])
  | refused hh => exact refused ((hs _ hh).2.trans hh)
  | ended r => exact ended r

/-- A redemption goes on after each answer, and no row loses its group by it. -/
theorem answered {o : Operation} (h : Admitting s a p) {c : Call}
    {next : Except StoreFailure c.Result → Program Membership} (hp : p = .call c next)
    {r : Except StoreFailure c.Result} (hc : s.call a c = some (r, s')) :
    Admitting s' a (next r).settled ∧ o.Leads c.method s.tables s'.tables := by
  have hkept {m : Method} {t t' : Tables} (hg : t'.groups = t.groups)
      (h : t.Grounded → t'.Grounded) : o.Leads m t t' := by
    refine ⟨fun id g hid => .inl ?_, fun ht _ => h ht⟩
    rw [hg]
    exact Table.contains_eq_true.2 ⟨g, hid⟩
  have hback (x : Transaction) {m : Method} {t : Tables} : o.Leads m t (x.rollback t) :=
    hkept (x.rollback_groups t) fun ht => ht.rollback x
  have hsame {m : Method} {t : Tables} : o.Leads m t t := hkept rfl fun ht => ht
  cases h with
  | waiting =>
    rw [Invites.redeem_eq] at hp
    cases hp
    cases hh : s.held with
    | some y =>
      rw [Store.call_begin_held hh] at hc
      cases hc
    | none =>
      rw [Store.call_begin hh] at hc
      cases hc
      exact ⟨opened rfl, hsame⟩
  | @opened id user x hh =>
    cases hp
    cases hi : s.tables.invites.get? id with
    | none =>
      rw [Store.call_decrement_error hh (Tables.decrement_missing hi)] at hc
      cases hc
      exact ⟨refused hh, hsame⟩
    | some i =>
      cases hu : i.isExhausted with
      | true =>
        rw [Store.call_decrement_error hh (Tables.decrement_exhausted hi hu)] at hc
        cases hc
        exact ⟨refused hh, hsame⟩
      | false =>
        rw [Store.call_decrement hh (Tables.decrement_usable hi hu)] at hc
        cases hc
        have hi' : (s.tables.takeUse id).invites.get? id =
            some { i with remaining := i.remaining - 1 } := by
          rw [Tables.takeUse, Table.get?_modify, if_pos rfl, hi]
          rfl
        exact ⟨taken rfl hi' rfl, hkept rfl fun ht => ht.takeUse id⟩
  | @taken x m id i hh hi hg =>
    cases hp
    cases hm : s.tables.memberships.contains m.key with
    | true =>
      rw [Store.call_insertMembership_error hh (Tables.insertMembership_taken hm)] at hc
      cases hc
      exact ⟨refused hh, hsame⟩
    | false =>
      rw [Store.call_insertMembership hh (Tables.insertMembership_free hm)] at hc
      cases hc
      exact ⟨entered rfl (Table.get?_insert_self ..),
        hkept rfl fun ht => ht.enrol (hg ▸ ht.invites id i hi)⟩
  | @entered x m hh hm =>
    cases hp
    rw [Store.call_commit hh] at hc
    cases hc
    cases hf : x.failsCommit with
    | true =>
      rw [Transaction.commit, hf]
      exact ⟨ended _, hback x⟩
    | false =>
      rw [Transaction.commit, hf]
      exact ⟨ended _, hsame⟩
  | @refused x e hh =>
    cases hp
    rw [Store.call_rollback hh] at hc
    cases hc
    exact ⟨ended _, hback x⟩
  | ended r => cases hp

/-- A redemption that comes to its end by an admission leaves the membership in the tables. -/
theorem admitted (h : Admitting s a p) {c : Call}
    {next : Except StoreFailure c.Result → Program Membership} (hp : p = .call c next)
    {r : Except StoreFailure c.Result} (hc : s.call a c = some (r, s')) {m : Membership}
    (hd : (next r).settled = .done (.ok m)) : s'.tables.memberships.get? m.key = some m := by
  cases h with
  | waiting =>
    rw [Invites.redeem_eq] at hp
    cases hp
    cases r <;> cases hd
  | opened =>
    cases hp
    cases r <;> cases hd
  | taken =>
    cases hp
    cases r <;> cases hd
  | @entered x m' hh hm =>
    cases hp
    rw [Store.call_commit hh] at hc
    cases hc
    cases hf : x.failsCommit with
    | true =>
      rw [Transaction.commit, hf] at hd
      cases hd
    | false =>
      rw [Transaction.commit, hf] at hd ⊢
      cases hd
      exact hm
  | refused =>
    cases hp
    cases hd
  | ended => cases hp

end Admitting

theorem Invites.create_settled (actor : UserId) (group : GroupId) (role : Role) (uses : Int)
    (id : InviteId) (fresh : RoleId) :
    (create actor group role uses id fresh).settled = create actor group role uses id fresh := by
  rw [create_eq]
  split <;> rfl

/-- An agent that goes away takes no group with it, and leaves no row without its group. -/
theorem Store.abandon_leads (s : Store) (a : Agent) :
    (s.abandon a).tables.groups = s.tables.groups ∧
      (s.tables.Grounded → (s.abandon a).tables.Grounded) := by
  cases hh : s.holding a with
  | none =>
    rw [abandon_stranger hh]
    exact ⟨rfl, fun h => h⟩
  | some x =>
    rw [abandon, call_rollback (holding_eq_some.1 hh)]
    exact ⟨x.rollback_groups _, fun h => h.rollback x⟩

/-- The states of a task by what it knows of the groups that it is about. The group that it makes an
invite to may be gone only if `gone` says so. -/
inductive Task.Placed (s : Store) (a : Agent) (gone : Prop) : Task → Prop
  | plain {o : Operation} {d : Draws} {p : Program o.Result} {calls : List (Method × Bool)}
      (ho : ∀ actor group role uses, o ≠ .createInvite actor group role uses)
      (hr : ∀ id user, o ≠ .redeem id user) (hp : Calls (Call.Fits o) p) :
      Placed s a gone ⟨o, d, some p, calls⟩
  | asking {actor : UserId} {group : GroupId} {role : Role} {uses : Int} {d : Draws} :
      Placed s a gone ⟨.createInvite actor group role uses, d,
        some (Invites.create actor group role uses d.invite d.role), []⟩
  | found {actor : UserId} {group : GroupId} {role : Role} {uses : Int} {d : Draws}
      {p : Program Invite} {calls : List (Method × Bool)}
      (hg : s.tables.groups.contains group = true ∨ gone)
      (hf : calls.contains (.findGroup, true) = true)
      (hp : Calls (Call.Fits (.createInvite actor group role uses)) p) :
      Placed s a gone ⟨.createInvite actor group role uses, d, some p, calls⟩
  | redeeming {id : InviteId} {user : UserId} {d : Draws} {p : Program Membership}
      {calls : List (Method × Bool)} (hp : Admitting s a p) :
      Placed s a gone ⟨.redeem id user, d, some p, calls⟩
  | ended {o : Operation} {d : Draws} {r : Except Refusal o.Result}
      {calls : List (Method × Bool)} : Placed s a gone ⟨o, d, some (.done r), calls⟩
  | dropped {o : Operation} {d : Draws} {calls : List (Method × Bool)} :
      Placed s a gone ⟨o, d, none, calls⟩

namespace Task.Placed

variable {s s' : Store} {a : Agent} {gone gone' : Prop} {o : Operation} {d : Draws}
  {p : Program o.Result} {calls : List (Method × Bool)}

theorem start (policy : Policy) (now : Instant) (o : Operation) (d : Draws) :
    Task.Placed s a gone ⟨o, d, some (o.program policy now d), []⟩ := by
  cases o with
  | redeem id user => exact redeeming .waiting
  | createInvite actor group role uses => exact asking
  | _ => exact plain nofun nofun (program_fits policy now d nofun)

/-- What is left of a task makes only the calls that fit its operation. -/
theorem fits (h : Task.Placed s a gone ⟨o, d, some p, calls⟩)
    (ho : ∀ id user, o ≠ .redeem id user) : Calls (Call.Fits o) p := by
  cases h with
  | plain _ _ hp => exact hp
  | asking => exact Invites.create_fits ..
  | found _ _ hp => exact hp
  | redeeming => exact absurd rfl (ho _ _)
  | ended => exact .done _

theorem redemption {id : InviteId} {user : UserId} {p : Program Membership}
    (h : Task.Placed s a gone ⟨.redeem id user, d, some p, calls⟩) (hp : ∀ r, p ≠ .done r) :
    Admitting s a p := by
  cases h with
  | plain _ hr => exact absurd rfl (hr id user)
  | redeeming h => exact h
  | ended => exact absurd rfl (hp _)

theorem settled (h : Task.Placed s a gone ⟨o, d, some p, calls⟩) :
    Task.Placed s a gone ⟨o, d, some p.settled, calls⟩ := by
  cases h with
  | plain ho hr hp => exact plain ho hr hp.settled
  | asking =>
    rw [Invites.create_settled]
    exact asking
  | found hg hf hp => exact found hg hf hp.settled
  | redeeming hp =>
    rw [hp.settled_eq]
    exact redeeming hp
  | ended => exact ended

/-- The state after an answer, with what the answer does to the groups. -/
theorem answered (h : Task.Placed s a gone ⟨o, d, some p, calls⟩) {c : Call}
    {next : Except StoreFailure c.Result → Program o.Result} (hs : p.settled = .call c next)
    {r : Except StoreFailure c.Result} (hc : s.call a c = some (r, s')) :
    Task.Placed s' a gone ⟨o, d, some (next r).settled, (c.method, r.isOk) :: calls⟩ ∧
      o.Leads c.method s.tables s'.tables := by
  have hleads (hp : Calls (Call.Fits o) p) :
      Calls (Call.Fits o) (next r).settled ∧ o.Leads c.method s.tables s'.tables := by
    obtain ⟨hfit, hn⟩ := hp.head hs
    exact ⟨(hn r).settled, (Store.call_moved hfit.not_transacts hc).leads hfit⟩
  cases h with
  | plain ho hr hp =>
    obtain ⟨hp, hl⟩ := hleads hp
    exact ⟨plain ho hr hp, hl⟩
  | @asking actor group role uses _ =>
    obtain ⟨hp, hl⟩ := hleads (Invites.create_fits ..)
    refine ⟨?_, hl⟩
    rw [Invites.create_settled, Invites.create_eq] at hs
    by_cases hu : uses ≤ 0
    · rw [if_pos hu] at hs
      cases hs
    rw [if_neg hu] at hs
    cases hs
    obtain ⟨rfl, rfl⟩ := Store.call_findGroup hc
    cases hg : s'.tables.groups.get? group with
    | none => exact ended
    | some g =>
      rw [hg] at hp
      exact found (.inl (Table.contains_eq_true.2 ⟨g, hg⟩)) rfl hp
  | @found actor group role uses _ _ _ hg hf hp =>
    obtain ⟨hp, hl⟩ := hleads hp
    refine ⟨found ?_ ?_ hp, hl⟩
    · rcases hg with hg | hg
      · obtain ⟨g, hg⟩ := Table.contains_eq_true.1 hg
        exact (hl.groups group g hg).elim .inl nofun
      · exact .inr hg
    · rw [List.contains_cons, hf, Bool.or_true]
  | redeeming hp =>
    obtain ⟨hp, hl⟩ := hp.answered (hp.settled_eq.symm.trans hs) hc
    exact ⟨redeeming hp, hl⟩
  | ended => cases hs

/-- A task that stores an invite has found the group of it. -/
theorem gone_of_createInvite {actor : UserId} {group : GroupId} {role : Role} {uses : Int}
    {p : Program Invite} (h : Task.Placed s a gone ⟨.createInvite actor group role uses, d, some p,
      calls⟩) {i : Invite} {next : Except StoreFailure Unit → Program Invite}
    (hs : p.settled = .call (.createInvite i) next) (hg : s.tables.groups.get? group = none) :
    gone := by
  cases h with
  | plain ho => exact absurd rfl (ho actor group role uses)
  | asking =>
    rw [Invites.create_settled, Invites.create_eq] at hs
    split at hs <;> cases hs
  | found hfound =>
    refine hfound.resolve_left ?_
    rw [Table.contains, hg]
    exact Bool.false_ne_true
  | ended => cases hs

/-- What others do leaves a task where it is, but the group that it has found may go. -/
theorem beside {t : Task} (h : t.Placed s a gone)
    (hs : ∀ x, s.held = some (a, x) → s'.tables = s.tables ∧ s'.held = s.held)
    (hg : ∀ actor group role uses d p calls,
      t = ⟨.createInvite actor group role uses, d, some p, calls⟩ → (∀ r, p ≠ .done r) →
      calls.contains (.findGroup, true) = true → s.tables.groups.contains group = true →
      s'.tables.groups.contains group = true ∨ gone') (hgone : gone → gone') :
    t.Placed s' a gone' := by
  cases h with
  | plain ho hr hp => exact plain ho hr hp
  | asking => exact asking
  | @found actor group role uses d p calls hfound hf hp =>
    by_cases hd : ∃ r, p = .done r
    · obtain ⟨r, rfl⟩ := hd
      exact ended
    · refine found ?_ hf hp
      rcases hfound with hfound | hfound
      · exact hg actor group role uses d p calls rfl (fun r hr => hd ⟨r, hr⟩) hf hfound
      · exact .inr (hgone hfound)
  | redeeming hp => exact redeeming (hp.beside hs)
  | ended => exact ended
  | dropped => exact dropped

theorem mono {t : Task} (h : t.Placed s a gone) (hgone : gone → gone') : t.Placed s a gone' :=
  h.beside (fun _ _ => ⟨rfl, rfl⟩) (fun _ _ _ _ _ _ _ _ _ _ hg => .inl hg) hgone

end Task.Placed

end GroupAccess
