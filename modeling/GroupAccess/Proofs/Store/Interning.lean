import GroupAccess.Proofs.Operation.Repetition
import GroupAccess.Proofs.Store.Rollback

namespace GroupAccess

/-- Roles that were interned, the first one first, with the identifiers that were drawn for them. -/
abbrev RoleLog := List (Role × RoleId)

namespace RoleLog

variable {log : RoleLog} {role : Role} {id : RoleId}

theorem lookup_concat (log : RoleLog) (role r : Role) (id : RoleId) :
    (log ++ [(role, id)]).lookup r = (log.lookup r).or (if r = role then some id else none) := by
  rw [List.lookup_append, List.lookup_cons]
  by_cases hr : r = role
  · rw [if_pos hr, beq_iff_eq.2 hr]
  · rw [if_neg hr, beq_false_of_ne hr]
    rfl

theorem lookup_eq_none (h : ∀ id, (role, id) ∉ log) : log.lookup role = none := by
  refine List.lookup_eq_none_iff.2 fun x hx => bne_iff_ne.2 ?_
  rintro rfl
  exact h x.2 hx

theorem mem_of_lookup (h : log.lookup role = some id) : (role, id) ∈ log := by
  obtain ⟨before, after, rfl, -⟩ := List.lookup_eq_some_iff.1 h
  exact List.mem_append_right _ List.mem_cons_self

/-- What is interned later does not count. -/
theorem lookup_append_of_some (h : log.lookup role = some id) (more : RoleLog) :
    (log ++ more).lookup role = some id := by
  rw [List.lookup_append, h, Option.some_or]

end RoleLog

open RoleLog

namespace Tables

/-- The roles that are stored are those of the log, each under the identifier that was drawn for it
when it was interned first. -/
def Interned (t : Tables) (log : RoleLog) : Prop :=
  ∀ id role, t.roles.get? id = some role ↔ log.lookup role = some id

namespace Interned

variable {t : Tables} {log : RoleLog} {role : Role}

theorem empty : Interned {} [] := fun _ _ => ⟨nofun, nofun⟩

theorem congr {t' : Tables} (h : t.Interned log) (hr : t'.roles = t.roles) : t'.Interned log := by
  unfold Interned
  rw [hr]
  exact h

theorem findRoleId (h : t.Interned log) (role : Role) : t.findRoleId role = log.lookup role := by
  cases hf : t.findRoleId role with
  | some id => exact ((h id role).1 (findRoleId_eq_some hf)).symm
  | none =>
    refine (Option.eq_none_iff_forall_not_mem.2 fun id hid => ?_).symm
    exact findRoleId_eq_none hf id ((h id role).2 hid)

/-- A role that was interned before is not stored again. -/
theorem createRole_again (h : t.Interned log) {id : RoleId} (hl : log.lookup role = some id)
    (fresh : RoleId) : t.createRole role fresh = (id, t) := by
  rw [createRole, h.findRoleId, hl]

/-- Different roles have different identifiers. -/
theorem role_unique (h : t.Interned log) {role' : Role} {id : RoleId}
    (hl : log.lookup role = some id) (hl' : log.lookup role' = some id) : role = role' :=
  Option.some.inj (((h id role).2 hl).symm.trans ((h id role').2 hl'))

/-- Interning a role is noted at the end of the log. The identifier that is drawn for it may be in
the log for no other role. -/
theorem createRole (h : t.Interned log) {fresh : RoleId}
    (hf : ∀ r, (r, fresh) ∈ log → r = role) :
    (t.createRole role fresh).2.Interned (log ++ [(role, fresh)]) := by
  intro id r
  rw [lookup_concat]
  cases hl : log.lookup role with
  | some known =>
    rw [h.createRole_again hl, h id r]
    by_cases hr : r = role
    · rw [hr, hl, Option.some_or]
    · rw [if_neg hr, Option.or_none]
  | none =>
    have hnew : t.findRoleId role = none := (h.findRoleId role).trans hl
    have hstored : (t.createRole role fresh).2.roles = t.roles.insert fresh role := by
      rw [Tables.createRole, hnew]
    rw [hstored, Table.get?_insert]
    by_cases hr : r = role
    · rw [hr, hl, if_pos rfl, Option.none_or]
      by_cases hid : id = fresh
      · rw [if_pos hid, hid]
        exact ⟨fun _ => rfl, fun _ => rfl⟩
      · rw [if_neg hid]
        refine ⟨fun hs => absurd hs (findRoleId_eq_none hnew id), fun hs => ?_⟩
        exact absurd (Option.some.inj hs).symm hid
    · rw [if_neg hr, Option.or_none]
      by_cases hid : id = fresh
      · rw [if_pos hid, hid]
        refine ⟨fun hs => absurd (Option.some.inj hs).symm hr, fun hs => ?_⟩
        exact absurd (hf r (mem_of_lookup hs)) hr
      · rw [if_neg hid]
        exact h id r

end Interned

end Tables

namespace Store

variable {s s' : Store} {a : Agent}

/-- Only the call for a role changes the roles. -/
theorem call_keeps_roles {c : Call} (hm : c.method ≠ .createRole)
    {r : Except StoreFailure c.Result} (hc : s.call a c = some (r, s')) :
    s'.tables.roles = s.tables.roles := by
  cases ht : c.method.transacts with
  | false => exact call_roles ⟨hm, ht⟩ hc
  | true =>
    refine call_transacts (P := fun t => t.roles = s.tables.roles) ?_ ?_ ht rfl hc
    · rintro (invite | m) t h <;> exact h
    · rintro (invite | key) t h <;> exact h

theorem abandon_keeps_roles (s : Store) (a : Agent) :
    (s.abandon a).tables.roles = s.tables.roles := by
  unfold abandon
  split
  · exact call_keeps_roles (c := .rollback) (by simp [Call.method]) ‹_›
  · rfl

end Store

end GroupAccess
