import GroupAccess.Proofs.Operation.Effect
import GroupAccess.Proofs.Store.Answered

namespace GroupAccess

namespace Table

variable {κ ρ : Type} [DecidableEq κ]

/-- A row at a new key goes to the front. -/
theorem insert_entries {t : Table κ ρ} {k : κ} (h : t.get? k = none) (r : ρ) :
    (t.insert k r).entries = (k, r) :: t.entries := by
  have hc : t.contains k = false := contains_eq_false.2 h
  simp only [insert, hc, Bool.false_eq_true, dite_false]

end Table

namespace Tables

variable {t : Tables} {role : Role} {fresh : RoleId}

theorem findRoleId_createRole (t : Tables) (role : Role) (fresh : RoleId) :
    (t.createRole role fresh).2.findRoleId role = some (t.createRole role fresh).1 := by
  cases hn : t.findRoleId role with
  | some id => simp only [createRole, hn]
  | none =>
    simp only [createRole, hn]
    cases hid : findRoleId { t with roles := t.roles.insert fresh role } role with
    | none =>
      have hget : (t.roles.insert fresh role).get? fresh = some role := Table.get?_insert_self ..
      exact absurd hget (findRoleId_eq_none hid fresh)
    | some id =>
      rcases Table.get?_insert_cases (findRoleId_eq_some hid) with ⟨rfl, -⟩ | hold
      · rfl
      · exact absurd hold (findRoleId_eq_none hn id)

/-- A role that was stored is found. -/
theorem createRole_again (t : Tables) (role : Role) (fresh fresh' : RoleId) :
    (t.createRole role fresh).2.createRole role fresh' = t.createRole role fresh := by
  rw [createRole.eq_1 (t.createRole role fresh).2, findRoleId_createRole]

/-- To store a new role changes the roles. -/
theorem createRole_gains (h : t.findRoleId role = none) :
    (t.createRole role fresh).2.roles ≠ t.roles := by
  intro he
  have hget := t.createRole_get role fresh
  rw [he] at hget
  exact findRoleId_eq_none h _ hget

/-- Where a role is known, it stays what it is when another is stored. -/
theorem roleOf_createRole (hf : t.roles.get? fresh = none) {user : UserId} {group : GroupId}
    {own : Role} (h : t.roleOf user group = .ok own) :
    (t.createRole role fresh).2.roleOf user group = .ok own := by
  obtain ⟨m, stored, hm, hr, rfl⟩ := roleOf_eq_ok h
  simp only [roleOf, createRole_memberships, hm, createRole_keeps hf hr]

/-- A group that is founded after an attempt that had stored the role. -/
theorem groupFounded_again {now : Instant} {owner : UserId} {name : String}
    {description : Option String} {id : GroupId}
    (h : (t.groupFounded now owner name description id fresh).2.roles ≠ t.roles) (now' : Instant)
    (id' : GroupId) (fresh' : RoleId) :
    (t.createRole .full fresh).2.groupFounded now' owner name description id' fresh' =
      t.groupFounded now' owner name description id' fresh := by
  unfold groupFounded at h ⊢
  cases hn : (Text.trim name).isEmpty with
  | true =>
    rw [hn] at h
    exact absurd rfl h
  | false => simp only [Bool.false_eq_true, if_false, createRole_again]

/-- An invite that is made after an attempt that had stored the role. -/
theorem invited_again (hf : t.roles.get? fresh = none) {actor : UserId} {group : GroupId}
    {uses : Int} {id : InviteId}
    (h : (t.invited actor group role uses id fresh).2.roles ≠ t.roles) (id' : InviteId)
    (fresh' : RoleId) :
    (t.createRole role fresh).2.invited actor group role uses id' fresh' =
      t.invited actor group role uses id' fresh := by
  unfold invited at h ⊢
  split at h
  · exact absurd rfl h
  split at h
  · exact absurd rfl h
  rename_i hu hg
  cases hr : t.roleOf actor group with
  | error e =>
    rw [hr] at h
    exact absurd rfl h
  | ok own =>
    simp only [hr] at h
    split at h
    · split at h
      · rename_i hm hc
        simp only [if_neg hu, createRole_groups, if_neg hg, roleOf_createRole hf hr, if_pos hm,
          if_pos hc, createRole_again]
      · exact absurd rfl h
    · exact absurd rfl h

end Tables

/-- The roles change only with the call for a role. -/
theorem Store.call_roles {s s' : Store} {a : Agent} {c : Call} {r : Except StoreFailure c.Result}
    (hm : c.method ≠ .createRole ∧ c.method.transacts = false) (hc : s.call a c = some (r, s')) :
    s'.tables.roles = s.tables.roles := by
  cases c with
  | begin | decrement _ | insertMembership _ | commit | rollback => cases hm.2
  | createRole role fresh => exact absurd rfl hm.1
  | health =>
    cases hc
    rfl
  | createUser u => obtain rfl | ⟨-, rfl⟩ := call_createUser hc <;> rfl
  | createToken record => obtain rfl | ⟨-, rfl⟩ := call_createToken hc <;> rfl
  | createGroup g owner => obtain rfl | ⟨-, rfl⟩ := call_createGroup hc <;> rfl
  | deleteUser user =>
    rw [call] at hc
    obtain ⟨-, rfl⟩ := atomic_eq_some hc
    dsimp only
    split <;> rfl
  | _ =>
    rw [call] at hc
    obtain ⟨-, rfl⟩ := atomic_eq_some hc
    rfl

end GroupAccess
