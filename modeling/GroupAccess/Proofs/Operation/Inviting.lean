import GroupAccess.Proofs.Operation.Outcome

namespace GroupAccess

namespace Refusal

/-- The refusal of an actor who does not manage the members. -/
def notManager : Refusal := .forbidden "manage_members"

/-- The refusal of a role that the actor does not cover. -/
def exceedsOwn : Refusal := .forbidden "granted role exceeds own role"

theorem notManager_ne_exceedsOwn : notManager ≠ exceedsOwn := by
  simp [notManager, exceedsOwn]

end Refusal

namespace Tables

variable {t t' : Tables} {actor : UserId} {group : GroupId} {role : Role} {uses : Int}
  {id : InviteId} {fresh : RoleId} {r : Except Refusal Invite}

/-- What a user may do is refused for a membership or a role that is not there. -/
theorem roleOf_eq_error {user : UserId} {e : Refusal} (h : t.roleOf user group = .error e) :
    e = .notAMember ∧ t.memberships.get? (user, group) = none ∨
      ∃ m, t.memberships.get? (user, group) = some m ∧ t.roles.get? m.role = none ∧
        e = missingRole user group m.role := by
  unfold roleOf at h
  cases hm : t.memberships.get? (user, group) with
  | none =>
    rw [hm] at h
    cases h
    exact .inl ⟨rfl, rfl⟩
  | some m =>
    simp only [hm] at h
    cases hr : t.roles.get? m.role with
    | none =>
      simp only [hr] at h
      cases h
      exact .inr ⟨m, rfl, hr, rfl⟩
    | some stored =>
      simp only [hr] at h
      cases h

/-- What the making of an invite answers and leaves, by the first check that fails. -/
inductive Invitation (t : Tables) (actor : UserId) (group : GroupId) (role : Role) (uses : Int)
    (id : InviteId) (fresh : RoleId) : Except Refusal Invite → Tables → Prop
  | limit (hu : uses ≤ 0) : Invitation t actor group role uses id fresh (.error .badInviteLimit) t
  | nowhere (hu : 0 < uses) (hg : t.groups.contains group = false) :
      Invitation t actor group role uses id fresh (.error .groupNotFound) t
  | stranger (hu : 0 < uses) (hg : t.groups.contains group = true)
      (hm : t.memberships.get? (actor, group) = none)
      (hr : t.roleOf actor group = .error .notAMember) :
      Invitation t actor group role uses id fresh (.error .notManager) t
  | broken {m : Membership} (hu : 0 < uses) (hg : t.groups.contains group = true)
      (hm : t.memberships.get? (actor, group) = some m) (hs : t.roles.get? m.role = none)
      (hr : t.roleOf actor group = .error (missingRole actor group m.role)) :
      Invitation t actor group role uses id fresh (.error (missingRole actor group m.role)) t
  | unmanaged {own : Role} (hu : 0 < uses) (hg : t.groups.contains group = true)
      (hr : t.roleOf actor group = .ok own) (hm : own.allows .manageMembers = false) :
      Invitation t actor group role uses id fresh (.error .notManager) t
  | exceeding {own : Role} (hu : 0 < uses) (hg : t.groups.contains group = true)
      (hr : t.roleOf actor group = .ok own) (hm : own.allows .manageMembers = true)
      (hc : own.covers role = false) :
      Invitation t actor group role uses id fresh (.error .exceedsOwn) t
  | covered {own : Role} (hu : 0 < uses) (hg : t.groups.contains group = true)
      (hr : t.roleOf actor group = .ok own) (hm : own.allows .manageMembers = true)
      (hc : own.covers role = true) :
      Invitation t actor group role uses id fresh
        (.ok ⟨id, group, (t.createRole role fresh).1, uses, actor⟩)
        ((t.createRole role fresh).2.createInvite
          ⟨id, group, (t.createRole role fresh).1, uses, actor⟩)

theorem invitation (t : Tables) (actor : UserId) (group : GroupId) (role : Role) (uses : Int)
    (id : InviteId) (fresh : RoleId) :
    t.Invitation actor group role uses id fresh (t.invited actor group role uses id fresh).1
      (t.invited actor group role uses id fresh).2 := by
  unfold invited
  split
  · exact .limit ‹_›
  rename_i hu
  have hu : 0 < uses := Int.not_le.1 hu
  split
  · rename_i hg
    exact .nowhere hu (Table.contains_eq_false.2 (Option.isNone_iff_eq_none.1 hg))
  rename_i hg
  have hg : t.groups.contains group = true :=
    Table.contains_eq_true.2 (Option.ne_none_iff_exists'.1 fun hn =>
      hg (Option.isNone_iff_eq_none.2 hn))
  split
  · rename_i e hr
    rcases roleOf_eq_error hr with ⟨rfl, hm⟩ | ⟨m, hm, hs, rfl⟩
    · exact .stranger hu hg hm hr
    · exact .broken hu hg hm hs hr
  · rename_i own hr
    cases hm : own.allows .manageMembers with
    | false => exact .unmanaged hu hg hr hm
    | true =>
      cases hc : own.covers role with
      | false => exact .exceeding hu hg hr hm hc
      | true => exact .covered hu hg hr hm hc

namespace Invitation

theorem limit_iff (h : t.Invitation actor group role uses id fresh r t') :
    r = .error .badInviteLimit ↔ uses ≤ 0 := by
  cases h with
  | limit hu => exact ⟨fun _ => hu, fun _ => rfl⟩
  | nowhere hu | stranger hu | broken hu | unmanaged hu | exceeding hu | covered hu =>
    exact ⟨nofun, fun hn => absurd hu (Int.not_lt.2 hn)⟩

theorem nowhere_iff (h : t.Invitation actor group role uses id fresh r t') :
    r = .error .groupNotFound ↔ 0 < uses ∧ t.groups.contains group = false := by
  cases h with
  | limit hu => exact ⟨nofun, fun hn => absurd hn.1 (Int.not_lt.2 hu)⟩
  | nowhere hu hg => exact ⟨fun _ => ⟨hu, hg⟩, fun _ => rfl⟩
  | stranger _ hg | broken _ hg | unmanaged _ hg | exceeding _ hg | covered _ hg =>
    refine ⟨nofun, fun hn => ?_⟩
    rw [hg] at hn
    cases hn.2

/-- Whoever is no member is told the same as a member who does not manage the others. -/
theorem notManager_iff (h : t.Invitation actor group role uses id fresh r t') :
    r = .error .notManager ↔ 0 < uses ∧ t.groups.contains group = true ∧
      (t.memberships.get? (actor, group) = none ∨
        ∃ own, t.roleOf actor group = .ok own ∧ own.allows .manageMembers = false) := by
  have hmanager {own : Role} (hr : t.roleOf actor group = .ok own)
      (hm : own.allows .manageMembers = true) :
      ¬(t.memberships.get? (actor, group) = none ∨
        ∃ own, t.roleOf actor group = .ok own ∧ own.allows .manageMembers = false) := by
    obtain ⟨m, stored, hmember, -⟩ := roleOf_eq_ok hr
    rintro (hn | ⟨own', hr', hn⟩)
    · cases hmember.symm.trans hn
    · cases hr.symm.trans hr'
      cases hm.symm.trans hn
  cases h with
  | limit hu => exact ⟨nofun, fun hn => absurd hn.1 (Int.not_lt.2 hu)⟩
  | nowhere _ hg =>
    refine ⟨nofun, fun hn => ?_⟩
    rw [hg] at hn
    cases hn.2.1
  | stranger hu hg hm => exact ⟨fun _ => ⟨hu, hg, .inl hm⟩, fun _ => rfl⟩
  | broken _ _ hm _ hr =>
    refine ⟨nofun, ?_⟩
    rintro ⟨-, -, hn | ⟨own, hn, -⟩⟩
    · cases hm.symm.trans hn
    · cases hr.symm.trans hn
  | unmanaged hu hg hr hm => exact ⟨fun _ => ⟨hu, hg, .inr ⟨_, hr, hm⟩⟩, fun _ => rfl⟩
  | exceeding _ _ hr hm =>
    exact ⟨fun he => absurd (Except.error.inj he).symm Refusal.notManager_ne_exceedsOwn,
      fun hn => absurd hn.2.2 (hmanager hr hm)⟩
  | covered _ _ hr hm => exact ⟨nofun, fun hn => absurd hn.2.2 (hmanager hr hm)⟩

theorem exceedsOwn_iff (h : t.Invitation actor group role uses id fresh r t') :
    r = .error .exceedsOwn ↔ 0 < uses ∧ t.groups.contains group = true ∧
      ∃ own, t.roleOf actor group = .ok own ∧ own.allows .manageMembers = true ∧
        own.covers role = false := by
  cases h with
  | limit hu => exact ⟨nofun, fun hn => absurd hn.1 (Int.not_lt.2 hu)⟩
  | nowhere _ hg =>
    refine ⟨nofun, fun hn => ?_⟩
    rw [hg] at hn
    cases hn.2.1
  | stranger _ _ _ hr =>
    refine ⟨fun he => absurd (Except.error.inj he) Refusal.notManager_ne_exceedsOwn, ?_⟩
    rintro ⟨-, -, own, hown, -⟩
    cases hr.symm.trans hown
  | broken _ _ _ _ hr =>
    refine ⟨nofun, ?_⟩
    rintro ⟨-, -, own, hown, -⟩
    cases hr.symm.trans hown
  | unmanaged _ _ hr hm =>
    refine ⟨fun he => absurd (Except.error.inj he) Refusal.notManager_ne_exceedsOwn, ?_⟩
    rintro ⟨-, -, own, hown, hn, -⟩
    cases hr.symm.trans hown
    cases hm.symm.trans hn
  | exceeding hu hg hr hm hc => exact ⟨fun _ => ⟨hu, hg, _, hr, hm, hc⟩, fun _ => rfl⟩
  | covered _ _ hr _ hc =>
    refine ⟨nofun, ?_⟩
    rintro ⟨-, -, own, hown, -, hn⟩
    cases hr.symm.trans hown
    cases hc.symm.trans hn

theorem ok_iff (h : t.Invitation actor group role uses id fresh r t') :
    (∃ i, r = .ok i) ↔ 0 < uses ∧ t.groups.contains group = true ∧
      ∃ own, t.roleOf actor group = .ok own ∧ own.allows .manageMembers = true ∧
        own.covers role = true := by
  have hrefused {e : Refusal} (he : r = .error e) : ¬∃ i, r = .ok i := by
    rintro ⟨i, hi⟩
    cases he.symm.trans hi
  constructor
  · rintro ⟨i, rfl⟩
    cases h with
    | covered hu hg hr hm hc => exact ⟨hu, hg, _, hr, hm, hc⟩
  · rintro ⟨hu, hg, own, hown, hm, hc⟩
    cases h with
    | covered => exact ⟨_, rfl⟩
    | limit hn => exact absurd hu (Int.not_lt.2 hn)
    | nowhere _ hn => cases hg.symm.trans hn
    | stranger _ _ _ hr | broken _ _ _ _ hr => cases hr.symm.trans hown
    | unmanaged _ _ hr hn =>
      cases hr.symm.trans hown
      cases hm.symm.trans hn
    | exceeding _ _ hr _ hn =>
      cases hr.symm.trans hown
      cases hc.symm.trans hn

end Invitation

end Tables

theorem Service.Idle.perform_invitation {s : Service} (h : s.Idle) (actor : UserId)
    (group : GroupId) (role : Role) (uses : Int) (d : Draws) :
    s.tables.Invitation actor group role uses d.invite d.role
      (s.perform (.createInvite actor group role uses) d).1
      (s.perform (.createInvite actor group role uses) d).2.tables := by
  have hp : s.perform (.createInvite actor group role uses) d = _ :=
    perform_eq (h.run_invited actor group role uses d.invite d.role)
  rw [hp]
  exact s.tables.invitation actor group role uses d.invite d.role

end GroupAccess
