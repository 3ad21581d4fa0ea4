import GroupAccess.Proofs.Interleaving.Grounding
import GroupAccess.Proofs.Interleaving.Reliance
import GroupAccess.Proofs.Session.Deletion
import GroupAccess.Proofs.Store.Cascade
import GroupAccess.Proofs.Store.Rollback

namespace GroupAccess

namespace Tables

variable {t t' : Tables} {user : UserId}

theorem Grounded.strayOnly (h : t.Grounded) (user : UserId) : t.StrayOnly user := by
  constructor
  · intro k m hm hg
    have hc := (h.members k m hm).2
    rw [Table.contains, hg] at hc
    cases hc
  · intro id i hi hg
    have hc := h.invites id i hi
    rw [Table.contains, hg] at hc
    cases hc

namespace Keyed

theorem congr (h : t.Keyed) (hm : t'.memberships = t.memberships) : t'.Keyed := by
  unfold Keyed
  rw [hm]
  exact h

theorem insert (h : t.Keyed) (m : Membership)
    (hm : t'.memberships = t.memberships.insert m.key m) : t'.Keyed := by
  intro k m' hk
  rw [hm] at hk
  rcases Table.get?_insert_cases hk with ⟨rfl, rfl⟩ | hk
  · rfl
  · exact h k m' hk

theorem of_subset (h : t.Keyed)
    (hm : ∀ k m, t'.memberships.get? k = some m → t.memberships.get? k = some m) : t'.Keyed :=
  fun k m hk => h k m (hm k m hk)

theorem undo (h : t.Keyed) (u : Undo) : (u.apply t).Keyed := by
  cases u with
  | decrement invite => exact h.congr rfl
  | membership key => exact h.of_subset fun _ _ hk => (Table.get?_filter_eq_some.1 hk).1

theorem effect (h : t.Keyed) (w : Write) : (w.effect t).Keyed := by
  cases w with
  | decrement invite => exact h.congr rfl
  | insertMembership m => exact h.insert m rfl

theorem moved {c : Call} (h : t.Keyed) (hm : t.Moved c t') : t'.Keyed := by
  cases hm with
  | kept _ hm _ => exact h.congr hm
  | founded g owner => exact h.insert owner rfl
  | deleted user => exact h.of_subset fun _ _ hk => (Table.get?_filter_eq_some.1 hk).1
  | invited i => exact h.congr rfl

end Keyed

end Tables

theorem Store.call_keyed {s s' : Store} {a : Agent} {c : Call} {r : Except StoreFailure c.Result}
    (h : s.tables.Keyed) (hc : s.call a c = some (r, s')) : s'.tables.Keyed := by
  cases ht : c.method.transacts with
  | true => exact call_transacts (fun w _ h => h.effect w) (fun u _ h => h.undo u) ht h hc
  | false => exact h.moved (call_moved ht hc)

/-- An operation that is carried out alone leaves no row without its group. -/
theorem Outcome.grounded {now : Instant} {d : Draws} {t t' : Tables} {o : Operation}
    {r : Except Refusal o.Result} (ho : Outcome now d t o r t') (h : t.Grounded) :
    t'.Grounded := by
  have hrole (r : Role) : (t.createRole r d.role).2.Grounded :=
    h.congr (Tables.createRole_groups ..) (Tables.createRole_memberships ..)
      (Tables.createRole_invites ..)
  cases ho with
  | refused | kept => exact h
  | registered | secretStored | purged => exact h.congr rfl rfl rfl
  | deleted => exact h.deleteUser _
  | roleStored | nameTaken => exact hrole _
  | @founded owner _ _ g hid ho =>
    have howner : (Membership.owner g.owner g.id (t.createRole .full d.role).1).group = g.id := rfl
    exact ((hrole .full).found howner).congr (by rw [Tables.createRole_groups])
      (by rw [Tables.createRole_memberships]; rfl) rfl
  | @invited actor group role uses own g hu hg =>
    refine (hrole role).invite ?_
    rw [Tables.createRole_groups]
    exact Table.contains_eq_true.2 ⟨g, hg⟩
  | @redeemed invite user i hi hu hm =>
    have hg : (t.takeUse invite).groups.contains i.group = true := h.invites invite i hi
    exact (h.takeUse invite).enrol (m := { user, group := i.group, role := i.role }) hg

theorem Service.grounded_after (policy : Policy) (timeoutMillis : Nat) (clock : Instant)
    (steps : List Step) : ((start policy timeoutMillis clock).after steps).tables.Grounded := by
  induction steps using List.reverseRecOn with
  | nil => exact .empty
  | append_singleton steps x ih =>
    rw [after_concat]
    cases hx : x.draws with
    | none =>
      rw [step_tables hx]
      exact ih
    | some d =>
      cases x with
      | perform o d =>
        exact (((start_idle policy timeoutMillis clock).after steps).step_outcome o d).grounded ih
      | setClock now => cases hx
      | setFaults tokenWrites commits => cases hx

namespace Service

variable {policy : Policy} {timeoutMillis : Nat} {clock : Instant} {s : Service}

theorem Reached.keyed (h : s.Reached policy timeoutMillis clock) : s.tables.Keyed :=
  h.kept trivial (fun _ _ _ _ => .all _) (fun hs _ hc => Store.call_keyed hs hc) nofun

theorem Idle.step_deleteUser (h : s.Idle) (user : UserId) (d : Draws) :
    (s.step (.perform (.deleteUser user) d)).tables = s.tables.cascade user :=
  (h.perform_deleteUser user d).2

end Service

/-- In every state that operations lead to, when no transaction is open, a deletion

* answers whether the user is there, and changes nothing if it is not;
* takes the user, its tokens, its groups, its memberships and those of its groups, the invites it
  made and those to its groups, and no other row, if and only if every other membership and invite
  has its group; this is so if all operations were carried out one after the other;
* answers no when it is asked for again, and then changes nothing;
* comes, before or after a deletion of another user, to the same tables. -/
theorem cascade_exact (policy : Policy) (timeoutMillis : Nat) (clock : Instant) (s : Service)
    (hr : s.Reached policy timeoutMillis clock) (hs : s.store.held = none) (user other : UserId)
    (d e : Draws) :
    let t := s.tables
    let s' := s.step (.perform (.deleteUser user) d)
    (s.perform (.deleteUser user) d).1 = .ok (t.users.contains user) ∧
      (t.users.contains user = false → s'.tables = t) ∧
      (t.users.contains user = true → (s'.tables = t.withoutUser user ↔ t.StrayOnly user)) ∧
      (t.users.contains user = true →
        ∀ steps, s = (Service.start policy timeoutMillis clock).after steps →
          s'.tables = t.withoutUser user) ∧
      (s'.perform (.deleteUser user) e).1 = .ok false ∧
      (s'.step (.perform (.deleteUser user) e)).tables = s'.tables ∧
      (s'.step (.perform (.deleteUser other) e)).tables =
        ((s.step (.perform (.deleteUser other) e)).step (.perform (.deleteUser user) d)).tables := by
  intro t s'
  have hi : s.Idle := ⟨hr.plan, hs⟩
  have hi' : s'.Idle := hi.step _
  have ht : s'.tables = t.cascade user := hi.step_deleteUser user d
  have hexact (hu : t.users.contains user = true) :
      s'.tables = t.withoutUser user ↔ t.StrayOnly user := by
    rw [ht, Tables.cascade, if_pos hu]
    exact Tables.deleteUser_eq_withoutUser hr.keyed
  refine ⟨(hi.perform_deleteUser user d).1, fun hu => ?_, hexact, ?_, ?_, ?_, ?_⟩
  · rw [ht, Tables.cascade, hu]
    rfl
  · rintro hu steps rfl
    exact (hexact hu).2
      ((Service.grounded_after policy timeoutMillis clock steps).strayOnly user)
  · rw [(hi'.perform_deleteUser user e).1, ht, Tables.not_contains_cascade]
  · rw [hi'.step_deleteUser, ht, Tables.cascade_cascade]
  · rw [hi'.step_deleteUser, ht, (hi.step _).step_deleteUser, hi.step_deleteUser,
      Tables.cascade_comm]

namespace Sample

/-- Another user is registered. -/
def neighbour : UserId := ⟨uuid 6⟩

/-- Two users each found a group, and each becomes a member of the other's. -/
def exchange : List Step :=
  [entry, .perform (.register "c@d.e" ⟨""⟩) (draws 6), founding member,
    .perform (.createGroup neighbour "writers" none) (draws 7),
    .perform (.createInvite member ⟨uuid 3⟩ .member 1) (draws 4),
    .perform (.createInvite neighbour ⟨uuid 7⟩ .member 2) (draws 5),
    .perform (.redeem ⟨uuid 4⟩ neighbour) (draws 8), .perform (.redeem ⟨uuid 5⟩ member) (draws 9)]

/-- After `undercut`, a user that has nothing to do with the others is registered. -/
def arrival : List Action :=
  undercut ++ [.start (.register "c@d.e" ⟨""⟩) (draws 6), .move 5, .move 5]

end Sample

open Sample in
/-- Of two groups with both users as members, a deletion leaves one with one. -/
theorem cascade_exact_sample :
    let s := (Service.start openPolicy 5000 clock).after exchange
    s.Reached openPolicy 5000 clock ∧ s.store.held = none ∧
      s.tables.users.contains member = true ∧
      (s.step (.perform (.deleteUser member) (draws 10))).tables = s.tables.withoutUser member ∧
      s.tables.memberships.size = 4 ∧
      (s.tables.withoutUser member).memberships.rows.map Membership.key =
        [(neighbour, ⟨uuid 7⟩)] := by
  intro s
  have hu : s.tables.users.contains member = true := by decide +kernel
  refine ⟨.session exchange, rfl, hu, ?_, by decide +kernel, by decide +kernel⟩
  exact (cascade_exact openPolicy 5000 clock s (.session exchange) rfl member neighbour (draws 10)
    (draws 11)).2.2.2.1 hu exchange rfl

open Sample in
/-- The deletion of a user takes a membership of another in a group of a third. -/
theorem cascade_beyond :
    let s := ((World.start openPolicy 5000 clock).after arrival).service
    let s' := s.step (.perform (.deleteUser neighbour) (draws 7))
    s.store.held = none ∧ (s.perform (.deleteUser neighbour) (draws 7)).1 = .ok true ∧
      s.tables.memberships.rows.map Membership.key = [(guest, ⟨uuid 2⟩)] ∧
      s.tables.invites.rows.map Invite.createdBy = [member] ∧
      s.tables.owns neighbour ⟨uuid 2⟩ = false ∧
      s'.tables.memberships.rows = [] ∧ s'.tables.invites.rows = [] := by
  decide +kernel

end GroupAccess
