import GroupAccess.Record.Basic
import GroupAccess.Store.Failure
import GroupAccess.Store.Table
import GroupAccess.Token.SecretRecord

namespace GroupAccess

/-- The rows of a store. Each write on them is one atomic step. -/
structure Tables where
  users : Table UserId User := .empty
  /-- Keyed by the digest of the secret. -/
  tokens : Table String SecretRecord := .empty
  roles : Table RoleId Role := .empty
  groups : Table GroupId Group := .empty
  memberships : Table (UserId × GroupId) Membership := .empty
  invites : Table InviteId Invite := .empty
  deriving DecidableEq

namespace Tables

def findUserByEmail (t : Tables) (email : String) : Option User :=
  t.users.rows.find? fun u => u.email = email

/-- Addresses are unique. -/
def createUser (t : Tables) (u : User) : Except StoreFailure Tables :=
  if (t.findUserByEmail u.email).isSome then .error (.conflict "users_email_key")
  else .ok { t with users := t.users.insert u.id u }

/-- Removes a user with all that refers to it: its tokens, the groups it owns, its memberships and
those of its groups, the invites it made and those to its groups. -/
def deleteUser (t : Tables) (id : UserId) : Tables :=
  let groups := t.groups.filter fun _ g => g.owner ≠ id
  { t with
    users := t.users.erase id
    tokens := t.tokens.filter fun _ s => s.user ≠ id
    groups
    memberships := t.memberships.filter fun key _ => key.1 ≠ id && groups.contains key.2
    invites := t.invites.filter fun _ i => i.createdBy ≠ id && groups.contains i.group }

/-- Digests are unique. -/
def createToken (t : Tables) (s : SecretRecord) : Except StoreFailure Tables :=
  if t.tokens.contains s.digest then .error (.conflict "opaque_tokens_secret_hash_key")
  else .ok { t with tokens := t.tokens.insert s.digest s }

def purgeTokens (t : Tables) (now : Instant) : Tables :=
  { t with tokens := t.tokens.filter fun _ s => !(s.expires && s.shownExpiry < now) }

def findRoleId (t : Tables) (r : Role) : Option RoleId :=
  (t.roles.entries.find? fun e => e.2 = r).map Prod.fst

/-- The identifier of a role, which is `fresh` if the role is new. -/
def createRole (t : Tables) (r : Role) (fresh : RoleId) : RoleId × Tables :=
  match t.findRoleId r with
  | some id => (id, t)
  | none => (fresh, { t with roles := t.roles.insert fresh r })

/-- Names are unique. The membership of the owner is written with the group. -/
def createGroup (t : Tables) (g : Group) (owner : Membership) : Except StoreFailure Tables :=
  if t.groups.rows.any fun h => h.name = g.name then .error (.conflict "groups_name_key")
  else
    .ok { t with
      groups := t.groups.insert g.id g
      memberships := t.memberships.insert owner.key owner }

def createInvite (t : Tables) (i : Invite) : Tables :=
  { t with invites := t.invites.insert i.id i }

/-- Whether an invite leads to a group and still admits. -/
def inviteUsable (t : Tables) (invite : InviteId) (group : GroupId) : Bool :=
  match t.invites.get? invite with
  | some i => i.group = group && !i.isExhausted
  | none => false

def decrement (t : Tables) (invite : InviteId) : Except StoreFailure (Grant × Tables) :=
  match t.invites.get? invite with
  | none => .error .notFound
  | some i =>
    if i.isExhausted then .error .exhausted
    else
      let invites := t.invites.modify invite fun i => { i with remaining := i.remaining - 1 }
      .ok (i.grant, { t with invites })

def increment (t : Tables) (invite : InviteId) : Tables :=
  { t with invites := t.invites.modify invite fun i => { i with remaining := i.remaining + 1 } }

def insertMembership (t : Tables) (m : Membership) : Except StoreFailure Tables :=
  if t.memberships.contains m.key then .error (.conflict "memberships_pkey")
  else .ok { t with memberships := t.memberships.insert m.key m }

def removeMembership (t : Tables) (key : UserId × GroupId) : Tables :=
  { t with memberships := t.memberships.erase key }

/-- A purge takes the tokens that are refused as expired. -/
theorem purgeTokens_eq (t : Tables) (now : Instant) :
    t.purgeTokens now = { t with tokens := t.tokens.filter fun _ s => !s.isExpired now } := by
  simp only [purgeTokens, SecretRecord.isExpired_eq]

theorem findRoleId_eq_some {t : Tables} {r : Role} {id : RoleId} (h : t.findRoleId r = some id) :
    t.roles.get? id = some r := by
  obtain ⟨⟨id', r'⟩, he, rfl⟩ := Option.map_eq_some_iff.1 h
  have hr := List.find?_some he
  cases of_decide_eq_true hr
  exact Table.get?_eq_some.2 (List.mem_of_find?_eq_some he)

theorem findRoleId_eq_none {t : Tables} {r : Role} (h : t.findRoleId r = none) (id : RoleId) :
    t.roles.get? id ≠ some r := by
  intro hid
  have hn := List.find?_eq_none.1 (Option.map_eq_none_iff.1 h) _ (Table.get?_eq_some.1 hid)
  exact hn (decide_eq_true rfl)

section

variable (t : Tables) (r : Role) (fresh : RoleId)

@[simp] theorem createRole_users : (t.createRole r fresh).2.users = t.users := by
  unfold createRole
  split <;> rfl

@[simp] theorem createRole_tokens : (t.createRole r fresh).2.tokens = t.tokens := by
  unfold createRole
  split <;> rfl

@[simp] theorem createRole_groups : (t.createRole r fresh).2.groups = t.groups := by
  unfold createRole
  split <;> rfl

@[simp] theorem createRole_memberships :
    (t.createRole r fresh).2.memberships = t.memberships := by
  unfold createRole
  split <;> rfl

@[simp] theorem createRole_invites : (t.createRole r fresh).2.invites = t.invites := by
  unfold createRole
  split <;> rfl

/-- A role is stored under the identifier that is given for it. -/
theorem createRole_get :
    (t.createRole r fresh).2.roles.get? (t.createRole r fresh).1 = some r := by
  unfold createRole
  split
  · rename_i id h
    exact findRoleId_eq_some h
  · exact Table.get?_insert_self ..

variable {t r fresh}

/-- A role that is stored is not stored again. -/
theorem createRole_stored {id : RoleId} (h : t.roles.get? id = some r) :
    (t.createRole r fresh).2 = t := by
  unfold createRole
  split
  · rfl
  · rename_i hn
    exact absurd h (findRoleId_eq_none hn id)

/-- What was stored stays, unless the fresh identifier is one in use. -/
theorem createRole_keeps {id : RoleId} {r' : Role} (hf : t.roles.get? fresh = none)
    (h : t.roles.get? id = some r') : (t.createRole r fresh).2.roles.get? id = some r' := by
  unfold createRole
  split
  · exact h
  · exact Table.get?_insert_of_new hf h

/-- A stored role was stored before, or it is the new one. -/
theorem createRole_roles {id : RoleId} {r' : Role}
    (h : (t.createRole r fresh).2.roles.get? id = some r') :
    t.roles.get? id = some r' ∨ id = fresh ∧ r' = r ∧ t.findRoleId r = none := by
  unfold createRole at h
  split at h
  · exact .inl h
  · rename_i hn
    rcases Table.get?_insert_cases h with ⟨hid, hr⟩ | h
    · exact .inr ⟨hid, hr, hn⟩
    · exact .inl h

end

/-- One use of an invite less. -/
def takeUse (t : Tables) (invite : InviteId) : Tables :=
  { t with invites := t.invites.modify invite fun i => { i with remaining := i.remaining - 1 } }

@[simp] theorem takeUse_memberships (t : Tables) (invite : InviteId) :
    (t.takeUse invite).memberships = t.memberships := rfl

@[simp] theorem increment_takeUse (t : Tables) (invite : InviteId) :
    (t.takeUse invite).increment invite = t := by
  simp only [takeUse, increment]
  rw [Table.modify_modify fun i => by simp only [Int.sub_add_cancel]]

/-- An invite after a use is taken is as it was, but for its uses. -/
theorem takeUse_invites {t : Tables} {invite id : InviteId} {i : Invite}
    (h : (t.takeUse invite).invites.get? id = some i) :
    ∃ j, t.invites.get? id = some j ∧
      i = { j with remaining := if id = invite then j.remaining - 1 else j.remaining } := by
  rw [takeUse, Table.get?_modify] at h
  by_cases he : id = invite
  · rw [if_pos he] at h
    obtain ⟨j, hj, rfl⟩ := Option.map_eq_some_iff.1 h
    exact ⟨j, hj, by rw [if_pos he]⟩
  · rw [if_neg he] at h
    exact ⟨i, h, by rw [if_neg he]⟩

variable {t : Tables} {invite : InviteId} {m : Membership}

theorem decrement_missing (hi : t.invites.get? invite = none) :
    t.decrement invite = .error .notFound := by
  rw [decrement, hi]

theorem decrement_exhausted {i : Invite} (hi : t.invites.get? invite = some i)
    (hu : i.isExhausted = true) : t.decrement invite = .error .exhausted := by
  simp only [decrement, hi, hu, if_true]

theorem decrement_usable {i : Invite} (hi : t.invites.get? invite = some i)
    (hu : i.isExhausted = false) :
    t.decrement invite = .ok (i.grant, t.takeUse invite) := by
  simp only [decrement, hi, hu, Bool.false_eq_true, if_false, takeUse]

theorem insertMembership_taken (h : t.memberships.contains m.key = true) :
    t.insertMembership m = .error (.conflict "memberships_pkey") :=
  if_pos h

theorem insertMembership_free (h : t.memberships.contains m.key = false) :
    t.insertMembership m = .ok { t with memberships := t.memberships.insert m.key m } :=
  if_neg (Bool.eq_false_iff.1 h)

/-- A membership that is removed again leaves the tables as they were. -/
theorem removeMembership_insert (h : t.memberships.contains m.key = false) :
    removeMembership { t with memberships := t.memberships.insert m.key m } m.key = t := by
  rw [removeMembership, Table.erase_insert h]

theorem createGroup_conflict {g : Group} {e : StoreFailure} (h : t.createGroup g m = .error e) :
    e = .conflict "groups_name_key" := by
  unfold createGroup at h
  split at h
  · cases h
    rfl
  · cases h

end Tables

end GroupAccess
