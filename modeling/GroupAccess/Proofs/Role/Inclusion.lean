import GroupAccess.Proofs.Operation.Inviting
import GroupAccess.Proofs.Session.Basic

namespace GroupAccess

theorem Permission.mem_all (p : Permission) : p ∈ Permission.all := by
  cases p <;> decide

namespace Role

variable {r s : Role}

/-- Every permission that `s` has in effect, `r` has as well. -/
def Includes (r s : Role) : Prop :=
  ∀ p : Permission, s.effective.allows p = true → r.effective.allows p = true

instance : Decidable (r.Includes s) :=
  decidable_of_iff
    (∀ p ∈ Permission.all, s.effective.allows p = true → r.effective.allows p = true)
    ⟨fun h p => h p p.mem_all, fun h p _ => h p⟩

@[simp] theorem effective_of_admin (h : r.isAdmin = true) : r.effective = full := if_pos h

@[simp] theorem effective_of_plain (h : r.isAdmin = false) : r.effective = r :=
  if_neg (Bool.eq_false_iff.1 h)

theorem effective_isAdmin (r : Role) : r.effective.isAdmin = r.isAdmin := by
  cases h : r.isAdmin with
  | true =>
    rw [effective_of_admin h]
    rfl
  | false => rw [effective_of_plain h, h]

/-- Who includes an administrator is one. -/
theorem Includes.isAdmin (h : r.Includes s) (hs : s.isAdmin = true) : r.isAdmin = true := by
  rw [← effective_isAdmin]
  apply h .administer
  rw [allows, effective_isAdmin, hs]

/-- To cover a role takes its permissions and its level. -/
theorem covers_iff :
    r.covers s = true ↔ r.Includes s ∧ s.effective.admin ≤ r.effective.admin := by
  constructor
  · intro h
    have hlevel : s.effective.admin ≤ r.effective.admin := by
      simp only [covers, Bool.and_eq_true, decide_eq_true_eq] at h
      exact h.2
    exact ⟨fun p => allows_of_covers h, hlevel⟩
  · rintro ⟨h, hlevel⟩
    have hflag (a b : Bool) (hab : b = true → a = true) : (a || !b) = true := by
      cases b with
      | true => rw [hab rfl, Bool.true_or]
      | false => exact Bool.or_true a
    have hm := hflag _ _ (h .manageMembers)
    have ht := hflag _ _ (h .manageTasks)
    have hr := hflag _ _ (h .review)
    have hc := hflag _ _ (h .comment)
    simp only [allows] at hm ht hr hc
    simp only [covers, hm, ht, hr, hc, hlevel, decide_true, Bool.and_true]

/-- Levels in effect are in order, unless both are below one and in the other order. -/
theorem Includes.level_le_iff (h : r.Includes s) :
    s.effective.admin ≤ r.effective.admin ↔ ¬(r.admin < s.admin ∧ s.admin ≤ 0) := by
  cases hs : s.isAdmin with
  | true =>
    have hpos : 0 < s.admin := of_decide_eq_true hs
    rw [effective_of_admin hs, effective_of_admin (h.isAdmin hs)]
    simp only [Int.le_refl, true_iff]
    intro hlow
    omega
  | false =>
    have hlow : ¬0 < s.admin := of_decide_eq_false hs
    rw [effective_of_plain hs]
    cases hr : r.isAdmin with
    | true =>
      have hpos : 0 < r.admin := of_decide_eq_true hr
      rw [effective_of_admin hr]
      simp only [full, adminMax]
      omega
    | false =>
      rw [effective_of_plain hr]
      omega

theorem Includes.covers_eq_false (h : r.Includes s) :
    r.covers s = false ↔ r.admin < s.admin ∧ s.admin ≤ 0 := by
  have hlevel := h.level_le_iff
  rw [← Bool.not_eq_true, covers_iff, hlevel]
  constructor
  · intro hn
    by_cases hlow : r.admin < s.admin ∧ s.admin ≤ 0
    · exact hlow
    · exact absurd ⟨h, hlow⟩ hn
  · rintro hlow ⟨-, hn⟩
    exact hn hlow

end Role

/-- A role covers another if and only if it has all permissions of the other and at least its level,
both in effect. To have the permissions is the same, except for a role of which the level is below
zero and below the level of the other, which is none of an administrator. An actor who has all
permissions of a role is told that the role exceeds its own in just that case, if it manages the
members of the group. -/
theorem covers_inclusion (own role : Role) :
    (own.covers role = true ↔
        own.Includes role ∧ role.effective.admin ≤ own.effective.admin) ∧
      ((own.covers role = true ↔ own.Includes role) ↔
        ¬(own.Includes role ∧ own.admin < role.admin ∧ role.admin ≤ 0)) ∧
      ∀ (s : Service) (actor : UserId) (group : GroupId) (uses : Int) (d e : Draws), s.Idle →
        (s.perform (.resolveRole actor group) e).1 = .ok own → own.Includes role →
        ((s.perform (.createInvite actor group role uses) d).1 =
            .error (.forbidden "granted role exceeds own role") ↔
          0 < uses ∧ s.tables.groups.contains group = true ∧
            own.allows .manageMembers = true ∧ own.admin < role.admin ∧ role.admin ≤ 0) := by
  refine ⟨Role.covers_iff, ?_, ?_⟩
  · constructor
    · rintro h ⟨hincl, hlow⟩
      have hcov := h.2 hincl
      rw [hincl.covers_eq_false.2 hlow] at hcov
      cases hcov
    · intro hn
      refine ⟨fun h => (Role.covers_iff.1 h).1, fun hincl => ?_⟩
      apply eq_true_of_ne_false
      intro hcov
      exact hn ⟨hincl, hincl.covers_eq_false.1 hcov⟩
  · intro s actor group uses d e hs hr hincl
    rw [hs.perform_resolveRole] at hr
    rw [← hincl.covers_eq_false]
    have hinvited := hs.perform_invitation actor group role uses d
    constructor
    · intro h
      obtain ⟨hu, hg, own', hr', hm, hc⟩ := hinvited.exceedsOwn_iff.1 h
      cases hr.symm.trans hr'
      exact ⟨hu, hg, hm, hc⟩
    · rintro ⟨hu, hg, hm, hc⟩
      exact hinvited.exceedsOwn_iff.2 ⟨hu, hg, own, hr, hm, hc⟩

namespace Sample

/-- A role that manages members, with a level below zero. -/
def deputy : Role := { manageMembers := true, admin := -1 }

/-- An owner makes the guest its deputy. -/
def deputation : List Step :=
  [.perform (.createGroup owner " readers " none) (draws 1),
    .perform (.createInvite owner group deputy 2) (draws 2),
    .perform (.redeem invite guest) (draws 3)]

end Sample

open Sample in
/-- The deputy may hand on its own role, but not the role without any permission. -/
theorem covers_inclusion_sample :
    let s := service.after deputation
    s.Idle ∧ (s.perform (.resolveRole guest group) (draws 4)).1 = .ok deputy ∧
      deputy.Includes .none ∧ deputy.Includes deputy ∧
      (s.perform (.createInvite guest group .none 1) (draws 5)).1 =
        .error (.forbidden "granted role exceeds own role") ∧
      (s.perform (.createInvite guest group deputy 1) (draws 5)).1 ≠
        .error (.forbidden "granted role exceeds own role") := by
  intro s
  have hs : s.Idle := (Service.start_idle policy 5000 clock).after deputation
  have hr : (s.perform (.resolveRole guest group) (draws 4)).1 = .ok deputy := by decide +kernel
  have hg : s.tables.groups.contains group = true := by decide +kernel
  have hnone : deputy.Includes .none := by decide
  have hown : deputy.Includes deputy := fun _ hp => hp
  refine ⟨hs, hr, hnone, hown, ?_, fun h => ?_⟩
  · exact ((covers_inclusion deputy .none).2.2 s guest group 1 (draws 5) (draws 4) hs hr hnone).2
      ⟨by decide, hg, rfl, by decide, by decide⟩
  · have hlow := ((covers_inclusion deputy deputy).2.2 s guest group 1 (draws 5) (draws 4) hs hr
      hown).1 h
    exact absurd hlow.2.2.2.1 (by decide)

open Sample in
/-- A role without any permission is not covered by one with a level below zero, and an invite to it
is refused although the actor lacks none of its permissions. -/
theorem included_refused :
    Role.Includes { admin := -1 } .none ∧ Role.covers { admin := -1 } .none = false ∧
      let s := service.after deputation
      (s.perform (.resolveRole guest group) (draws 4)).1 = .ok deputy ∧
        deputy.Includes .none ∧
        (s.perform (.createInvite guest group .none 1) (draws 5)).1 =
          .error (.forbidden "granted role exceeds own role") := by
  decide +kernel

end GroupAccess
