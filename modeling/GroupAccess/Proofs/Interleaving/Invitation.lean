import GroupAccess.Proofs.Interleaving.Validity
import GroupAccess.Proofs.Operation.Inviting

namespace GroupAccess

/-- A new row is one row more. -/
theorem Table.size_insert {κ ρ : Type} [DecidableEq κ] {t : Table κ ρ} {k : κ} (r : ρ)
    (h : t.get? k = none) : (t.insert k r).size = t.size + 1 := by
  have hk : ¬t.contains k = true := by simp [contains, h]
  rw [insert, dif_neg hk]
  rfl

namespace Tables

variable {t t' : Tables} {actor : UserId} {group : GroupId} {role : Role} {uses : Int}
  {id : InviteId} {fresh : RoleId} {r : Except Refusal Invite}

namespace Invitation

/-- There are four refusals, and none of them leaves a trace, not even a role. -/
theorem error_cases (h : t.Invitation actor group role uses id fresh r t') (hv : t.Valid)
    {e : Refusal} (he : r = .error e) :
    (e = .badInviteLimit ∨ e = .groupNotFound ∨ e = .notManager ∨ e = .exceedsOwn) ∧ t' = t := by
  subst he
  cases h with
  | limit => exact ⟨.inl rfl, rfl⟩
  | nowhere => exact ⟨.inr (.inl rfl), rfl⟩
  | stranger | unmanaged => exact ⟨.inr (.inr (.inl rfl)), rfl⟩
  | exceeding => exact ⟨.inr (.inr (.inr rfl)), rfl⟩
  | broken _ _ hm _ hr =>
    obtain ⟨own, hown⟩ := hv.roleOf_member (Table.contains_eq_true.2 ⟨_, hm⟩)
    cases hr.symm.trans hown

variable {i : Invite}

/-- The invite that is made is the only new one. -/
theorem invite_written (h : t.Invitation actor group role uses id fresh (.ok i) t') :
    (i.id = id ∧ i.group = group ∧ i.remaining = uses ∧ i.createdBy = actor ∧
        t'.roles.get? i.role = some role) ∧
      t' = { t with roles := t'.roles, invites := t'.invites } ∧
      t'.invites = t.invites.insert id i := by
  cases h with
  | covered =>
    refine ⟨⟨rfl, rfl, rfl, rfl, createRole_get ..⟩, ?_, ?_⟩
    · simp only [createInvite, createRole_users, createRole_tokens, createRole_groups,
        createRole_memberships]
    · simp only [createInvite, createRole_invites]

/-- A role that is stored is used as it is, and one that is not is stored. -/
theorem role_written (h : t.Invitation actor group role uses id fresh (.ok i) t') :
    ((∃ j, t.roles.get? j = some role) → t'.roles = t.roles) ∧
      ((∀ j, t.roles.get? j ≠ some role) →
        i.role = fresh ∧ t'.roles = t.roles.insert fresh role) := by
  cases h with
  | covered =>
    constructor
    · rintro ⟨j, hj⟩
      simp only [createInvite, createRole_stored hj]
    · intro hnew
      have hfind : t.findRoleId role = none := by
        cases hf : t.findRoleId role with
        | none => rfl
        | some j => exact absurd (findRoleId_eq_some hf) (hnew j)
      simp only [createInvite, createRole, hfind, and_self]

/-- Under identifiers that are not in use, there is one invite more and at most one role. -/
theorem sizes (h : t.Invitation actor group role uses id fresh (.ok i) t')
    (hi : t.invites.get? id = none) (hf : t.roles.get? fresh = none) :
    t'.invites.size = t.invites.size + 1 ∧
      (t'.roles.size = t.roles.size ∨ t'.roles.size = t.roles.size + 1) := by
  obtain ⟨-, -, hinvites⟩ := h.invite_written
  obtain ⟨hstored, hnew⟩ := h.role_written
  constructor
  · rw [hinvites, Table.size_insert i hi]
  · by_cases hrole : ∃ j, t.roles.get? j = some role
    · rw [hstored hrole]
      exact .inl rfl
    · right
      rw [(hnew fun j hj => hrole ⟨j, hj⟩).2, Table.size_insert role hf]

end Invitation

end Tables

/-- In every state that operations lead to, when no transaction is open, an invite is made if and
only if it is for at least one use, the group exists, the actor is a member of it, and what the
actor may do there includes to manage members and covers the role. Else the first of these checks
that fails is what the actor is told: that the number of uses is bad, that there is no group, or
that it may not, be it that it is no member, that it does not manage them, or that it does not cover
the role. There is no other refusal, and a refusal changes nothing.

What is made is the one new invite, for the group and as many uses, made by the actor, with the
identifier of the role. The role is stored once: if it was stored already, no role is new, and else
it is the only one. All other rows are as they were. -/
theorem invitation_exact (policy : Policy) (timeoutMillis : Nat) (clock : Instant) (s : Service)
    (hr : s.Reached policy timeoutMillis clock) (hs : s.store.held = none) (actor : UserId)
    (group : GroupId) (role : Role) (uses : Int) (d e : Draws) :
    let t := s.tables
    let own := (s.perform (.resolveRole actor group) e).1
    let r := (s.perform (.createInvite actor group role uses) d).1
    let t' := (s.step (.perform (.createInvite actor group role uses) d)).tables
    ((∃ i, r = .ok i) ↔
        0 < uses ∧ t.groups.contains group = true ∧
          t.memberships.contains (actor, group) = true ∧
          ∃ o, own = .ok o ∧ o.allows .manageMembers = true ∧ o.covers role = true) ∧
      (r = .error .badInviteLimit ↔ uses ≤ 0) ∧
      (r = .error .groupNotFound ↔ 0 < uses ∧ t.groups.contains group = false) ∧
      (r = .error (.forbidden "manage_members") ↔ 0 < uses ∧ t.groups.contains group = true ∧
        (t.memberships.contains (actor, group) = false ∨
          ∃ o, own = .ok o ∧ o.allows .manageMembers = false)) ∧
      (r = .error (.forbidden "granted role exceeds own role") ↔
        0 < uses ∧ t.groups.contains group = true ∧
          t.memberships.contains (actor, group) = true ∧
          ∃ o, own = .ok o ∧ o.allows .manageMembers = true ∧ o.covers role = false) ∧
      (∀ x, r = .error x →
        (x = .badInviteLimit ∨ x = .groupNotFound ∨ x = .forbidden "manage_members" ∨
          x = .forbidden "granted role exceeds own role") ∧ t' = t) ∧
      ∀ i, r = .ok i →
        (i.id = d.invite ∧ i.group = group ∧ i.remaining = uses ∧ i.createdBy = actor ∧
          t'.roles.get? i.role = some role) ∧
        t' = { t with roles := t'.roles, invites := t'.invites } ∧
        t'.invites = t.invites.insert d.invite i ∧
        ((∃ id, t.roles.get? id = some role) → t'.roles = t.roles) ∧
        ((∀ id, t.roles.get? id ≠ some role) →
          i.role = d.role ∧ t'.roles = t.roles.insert d.role role) ∧
        (t.Fresh d → t'.invites.size = t.invites.size + 1 ∧
          (t'.roles.size = t.roles.size ∨ t'.roles.size = t.roles.size + 1)) := by
  intro t own r t'
  have hi : s.Idle := hr.idle hs
  have hinvited : t.Invitation actor group role uses d.invite d.role r t' :=
    hi.perform_invitation actor group role uses d
  have hown : own = t.roleOf actor group := by
    simp only [own, hi.perform_resolveRole]
    rfl
  have hmember {o : Role} (ho : t.roleOf actor group = .ok o) :
      t.memberships.contains (actor, group) = true := by
    obtain ⟨m, -, hm, -⟩ := Tables.roleOf_eq_ok ho
    exact Table.contains_eq_true.2 ⟨m, hm⟩
  rw [hown]
  refine ⟨?_, hinvited.limit_iff, hinvited.nowhere_iff, ?_, ?_,
    fun x => hinvited.error_cases hr.valid, ?_⟩
  · rw [hinvited.ok_iff]
    constructor
    · rintro ⟨hu, hg, o, ho, hm, hc⟩
      exact ⟨hu, hg, hmember ho, o, ho, hm, hc⟩
    · rintro ⟨hu, hg, -, o, ho, hm, hc⟩
      exact ⟨hu, hg, o, ho, hm, hc⟩
  · rw [Table.contains_eq_false]
    exact hinvited.notManager_iff
  · refine hinvited.exceedsOwn_iff.trans ?_
    constructor
    · rintro ⟨hu, hg, o, ho, hm, hc⟩
      exact ⟨hu, hg, hmember ho, o, ho, hm, hc⟩
    · rintro ⟨hu, hg, -, o, ho, hm, hc⟩
      exact ⟨hu, hg, o, ho, hm, hc⟩
  · intro i hok
    rw [hok] at hinvited
    obtain ⟨hrow, hrest, hinvites⟩ := hinvited.invite_written
    obtain ⟨hstored, hnew⟩ := hinvited.role_written
    exact ⟨hrow, hrest, hinvites, hstored, hnew, fun hf => hinvited.sizes hf.invite hf.role⟩

open Sample in
/-- The owner invites with a role that is new; the guest and the stranger may not. -/
theorem invitation_exact_sample :
    let s := service.after steps
    s.Reached policy 5000 clock ∧ s.store.held = none ∧
      (∃ i, (s.perform (.createInvite owner group { review := true } 3) (draws 4)).1 = .ok i) ∧
      (s.perform (.createInvite guest group .member 3) (draws 4)).1 =
        .error (.forbidden "manage_members") ∧
      (s.perform (.createInvite stranger group .member 3) (draws 4)).1 =
        .error (.forbidden "manage_members") := by
  intro s
  have hg : s.tables.groups.contains group = true := by decide +kernel
  have hexact (user : UserId) (role : Role) :=
    invitation_exact policy 5000 clock s (.session steps) rfl user group role 3 (draws 4) (draws 5)
  have howner : (s.perform (.resolveRole owner group) (draws 5)).1 = .ok .full := by
    decide +kernel
  have hguest : (s.perform (.resolveRole guest group) (draws 5)).1 = .ok .member := by
    decide +kernel
  refine ⟨.session steps, rfl, ?_, ?_, ?_⟩
  · exact (hexact owner { review := true }).1.2
      ⟨by decide, hg, by decide +kernel, .full, howner, rfl, by decide⟩
  · exact (hexact guest .member).2.2.2.1.2 ⟨by decide, hg, .inr ⟨.member, hguest, rfl⟩⟩
  · exact (hexact stranger .member).2.2.2.1.2 ⟨by decide, hg, .inl (by decide +kernel)⟩

end GroupAccess
