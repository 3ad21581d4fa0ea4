import GroupAccess.Store.Tables

namespace GroupAccess

namespace Table

variable {κ ρ : Type} [DecidableEq κ]

/-- Two conditions leave the same table if they agree on its rows. -/
theorem filter_eq_filter {t : Table κ ρ} {p q : κ → ρ → Bool} :
    t.filter p = t.filter q ↔ ∀ k r, t.get? k = some r → p k r = q k r := by
  constructor
  · intro h k r hr
    have hk := congrArg (fun u : Table κ ρ => u.get? k) h
    simp only [get?_filter, hr, Option.filter_some] at hk
    cases hp : p k r <;> cases hq : q k r <;> simp_all
  · intro h
    obtain ⟨es, hn⟩ := t
    simp only [filter, mk.injEq]
    exact List.filter_congr fun e he => h e.1 e.2 (get?_eq_some.2 he)

omit [DecidableEq κ] in
theorem filter_filter (t : Table κ ρ) (p q : κ → ρ → Bool) :
    (t.filter p).filter q = t.filter fun k r => p k r && q k r := by
  simp only [filter, List.filter_filter, mk.injEq]
  exact List.filter_congr fun e _ => Bool.and_comm ..

end Table

namespace Tables

variable {t : Tables} {user other : UserId}

def owns (t : Tables) (user : UserId) (group : GroupId) : Bool :=
  (t.groups.get? group).any fun g => g.owner = user

/-- The tables without a user, its tokens, its groups, its memberships and those of its groups, and
the invites that it made and those to its groups. -/
def withoutUser (t : Tables) (user : UserId) : Tables :=
  { t with
    users := t.users.erase user
    tokens := t.tokens.filter fun _ s => s.user ≠ user
    groups := t.groups.filter fun _ g => g.owner ≠ user
    memberships := t.memberships.filter fun _ m => m.user ≠ user && !t.owns user m.group
    invites := t.invites.filter fun _ i => i.createdBy ≠ user && !t.owns user i.group }

/-- Each membership stands under its user and group. -/
def Keyed (t : Tables) : Prop := ∀ k m, t.memberships.get? k = some m → m.key = k

/-- Memberships and invites whose group does not exist are at most those of the user. -/
structure StrayOnly (t : Tables) (user : UserId) : Prop where
  members : ∀ k m, t.memberships.get? k = some m → t.groups.get? m.group = none → m.user = user
  invites : ∀ id i, t.invites.get? id = some i → t.groups.get? i.group = none → i.createdBy = user

/-- A group stays if it exists and is not the user's. -/
theorem contains_kept (t : Tables) (user : UserId) (group : GroupId) :
    (t.groups.filter fun _ g => g.owner ≠ user).contains group =
      ((t.groups.get? group).isSome && !t.owns user group) := by
  rw [Table.contains, Table.get?_filter, owns]
  cases t.groups.get? group with
  | none => rfl
  | some g => by_cases h : g.owner = user <;> simp [h]

/-- Whether a row stays is decided by whose it is and by its group. That the group exists is asked
as well, which matters only where it does not. -/
theorem stays_iff (t : Tables) (user owner : UserId) (group : GroupId) :
    ((owner ≠ user && (t.groups.filter fun _ g => g.owner ≠ user).contains group) =
        (owner ≠ user && !t.owns user group)) ↔
      (t.groups.get? group = none → owner = user) := by
  rw [contains_kept]
  cases hg : t.groups.get? group with
  | none =>
    by_cases ho : owner = user <;> simp [ho, owns, hg]
  | some g => simp

theorem deleteUser_eq_withoutUser (h : t.Keyed) :
    t.deleteUser user = t.withoutUser user ↔ t.StrayOnly user := by
  have hm : (t.deleteUser user).memberships = (t.withoutUser user).memberships ↔
      ∀ k m, t.memberships.get? k = some m → t.groups.get? m.group = none → m.user = user := by
    rw [deleteUser, withoutUser, Table.filter_eq_filter]
    refine forall_congr' fun k => forall_congr' fun m => forall_congr' fun hm => ?_
    cases h k m hm
    exact t.stays_iff user m.user m.group
  have hi : (t.deleteUser user).invites = (t.withoutUser user).invites ↔
      ∀ id i, t.invites.get? id = some i → t.groups.get? i.group = none → i.createdBy = user := by
    rw [deleteUser, withoutUser, Table.filter_eq_filter]
    exact forall_congr' fun id => forall_congr' fun i => forall_congr' fun _ =>
      t.stays_iff user i.createdBy i.group
  constructor
  · intro he
    exact ⟨hm.1 (congrArg memberships he), hi.1 (congrArg invites he)⟩
  · intro hs
    have hm := hm.2 hs.members
    have hi := hi.2 hs.invites
    rw [deleteUser, withoutUser] at hm hi ⊢
    simp only [mk.injEq, true_and]
    exact ⟨hm, hi⟩

/-- A deletion that is asked for: nothing happens if the user is not there. -/
def cascade (t : Tables) (user : UserId) : Tables :=
  if t.users.contains user then t.deleteUser user else t

theorem contains_deleteUser (h : other ≠ user) :
    (t.deleteUser user).users.contains other = t.users.contains other := by
  simp only [deleteUser, Table.contains, Table.get?_erase, if_neg h]

theorem not_contains_cascade (t : Tables) (user : UserId) :
    (t.cascade user).users.contains user = false := by
  unfold cascade
  split
  · simp only [deleteUser, Table.contains, Table.get?_erase, if_true, Option.isSome_none]
  · exact Bool.eq_false_iff.2 ‹_›

/-- What is left has nothing more to go with the user. -/
theorem cascade_cascade (t : Tables) (user : UserId) :
    (t.cascade user).cascade user = t.cascade user := by
  rw [cascade.eq_1 (t.cascade user), not_contains_cascade]
  rfl

/-- Of two deletions a row is left if neither takes it; its group has to be left by both. -/
theorem deleteUser_deleteUser (t : Tables) (user other : UserId) :
    (t.deleteUser user).deleteUser other =
      let groups := t.groups.filter fun _ g => g.owner ≠ user && g.owner ≠ other
      { t with
        users := t.users.filter fun id _ => id ≠ user && id ≠ other
        tokens := t.tokens.filter fun _ s => s.user ≠ user && s.user ≠ other
        groups
        memberships := t.memberships.filter fun key _ =>
          (key.1 ≠ user && key.1 ≠ other) && groups.contains key.2
        invites := t.invites.filter fun _ i =>
          (i.createdBy ≠ user && i.createdBy ≠ other) && groups.contains i.group } := by
  have hboth (a b : Bool) (group : GroupId) :
      (a && (t.groups.filter fun _ g => g.owner ≠ user).contains group &&
          (b && (t.groups.filter fun _ g => g.owner ≠ user && g.owner ≠ other).contains group)) =
        (a && b && (t.groups.filter fun _ g =>
          g.owner ≠ user && g.owner ≠ other).contains group) := by
    simp only [Table.contains, Table.get?_filter]
    cases t.groups.get? group with
    | none => simp
    | some g => by_cases h : g.owner = user <;> simp [h, Bool.and_assoc]
  simp only [deleteUser, Table.erase, Table.filter_filter, hboth]

theorem deleteUser_comm (t : Tables) (user other : UserId) :
    (t.deleteUser user).deleteUser other = (t.deleteUser other).deleteUser user := by
  have hswap (a : UserId) : (a ≠ user && a ≠ other) = (a ≠ other && a ≠ user) :=
    Bool.and_comm ..
  simp only [deleteUser_deleteUser, hswap]

theorem cascade_comm (t : Tables) (user other : UserId) :
    (t.cascade user).cascade other = (t.cascade other).cascade user := by
  by_cases h : other = user
  · rw [h]
  unfold cascade
  cases hu : t.users.contains user <;> cases ho : t.users.contains other <;>
    simp [contains_deleteUser, h, Ne.symm h, hu, ho, deleteUser_comm t user other]

end Tables

end GroupAccess
