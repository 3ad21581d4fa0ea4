import GroupAccess.Store.Tables

namespace GroupAccess

inductive Call
  | findUserByEmail (email : String)
  | findUser (id : UserId)
  | userExists (id : UserId)
  | createUser (u : User)
  | deleteUser (id : UserId)
  | createToken (s : SecretRecord)
  | findToken (digest : String)
  | purgeTokens (now : Instant)
  | findRoleId (r : Role)
  /-- The identifier is used if the role is new. -/
  | createRole (r : Role) (fresh : RoleId)
  | findRole (id : RoleId)
  | createGroup (g : Group) (owner : Membership)
  | findGroup (id : GroupId)
  | findMembership (user : UserId) (group : GroupId)
  | createInvite (i : Invite)
  | findInvite (id : InviteId)
  | inviteUsable (id : InviteId) (group : GroupId)
  | health
  /-- Opens a redemption transaction; the next four are calls on it. -/
  | begin
  | decrement (id : InviteId)
  | insertMembership (m : Membership)
  | commit
  | rollback

namespace Call

abbrev Result : Call → Type
  | findUserByEmail _ => Option User
  | findUser _ => Option User
  | userExists _ => Bool
  | createUser _ => Unit
  | deleteUser _ => Bool
  | createToken _ => Unit
  | findToken _ => Option SecretRecord
  | purgeTokens _ => Nat
  | findRoleId _ => Option RoleId
  | createRole _ _ => RoleId
  | findRole _ => Option Role
  | createGroup _ _ => Unit
  | findGroup _ => Option Group
  | findMembership _ _ => Option Membership
  | createInvite _ => Unit
  | findInvite _ => Option Invite
  | inviteUsable _ _ => Bool
  | health => Unit
  | begin => Unit
  | decrement _ => Grant
  | insertMembership _ => Unit
  | commit => Unit
  | rollback => Unit

end Call

/-- A call without its arguments. -/
inductive Method
  | findUserByEmail
  | findUser
  | userExists
  | createUser
  | deleteUser
  | createToken
  | findToken
  | purgeTokens
  | findRoleId
  | createRole
  | findRole
  | createGroup
  | findGroup
  | findMembership
  | createInvite
  | findInvite
  | inviteUsable
  | health
  | begin
  | decrement
  | insertMembership
  | commit
  | rollback
  deriving DecidableEq, Repr

namespace Method

def all : List Method :=
  [findUserByEmail, findUser, userExists, createUser, deleteUser, createToken, findToken,
    purgeTokens, findRoleId, createRole, findRole, createGroup, findGroup, findMembership,
    createInvite, findInvite, inviteUsable, health, begin, decrement, insertMembership, commit,
    rollback]

/-- The part of the store that a call belongs to, and the call. -/
def name : Method → String
  | findUserByEmail => "users.find_by_email"
  | findUser => "users.find_by_id"
  | userExists => "users.exists"
  | createUser => "users.create"
  | deleteUser => "users.delete"
  | createToken => "tokens.create"
  | findToken => "tokens.find_by_secret_hash"
  | purgeTokens => "tokens.purge_expired"
  | findRoleId => "roles.find_role_id"
  | createRole => "roles.create_role"
  | findRole => "roles.find_role"
  | createGroup => "groups.create_group_with_owner"
  | findGroup => "groups.find_group"
  | findMembership => "groups.find_membership"
  | createInvite => "invites.create_invite"
  | findInvite => "invites.find_invite"
  | inviteUsable => "invites.exists"
  | health => "health"
  | begin => "invites.begin"
  | decrement => "tx.decrement_and_fetch"
  | insertMembership => "tx.insert_membership"
  | commit => "tx.commit"
  | rollback => "tx.rollback"

def ofName? (s : String) : Option Method := all.find? fun m => m.name = s

/-- Each call is found by its own name and by no other. -/
theorem ofName?_eq_some {s : String} {m : Method} : ofName? s = some m ↔ m.name = s := by
  constructor
  · intro h
    unfold ofName? at h
    have hfound := List.find?_some h
    exact of_decide_eq_true hfound
  · rintro rfl
    cases m <;> decide +kernel

end Method

def Call.method : Call → Method
  | findUserByEmail _ => .findUserByEmail
  | findUser _ => .findUser
  | userExists _ => .userExists
  | createUser _ => .createUser
  | deleteUser _ => .deleteUser
  | createToken _ => .createToken
  | findToken _ => .findToken
  | purgeTokens _ => .purgeTokens
  | findRoleId _ => .findRoleId
  | createRole _ _ => .createRole
  | findRole _ => .findRole
  | createGroup _ _ => .createGroup
  | findGroup _ => .findGroup
  | findMembership _ _ => .findMembership
  | createInvite _ => .createInvite
  | findInvite _ => .findInvite
  | inviteUsable _ _ => .inviteUsable
  | health => .health
  | begin => .begin
  | decrement _ => .decrement
  | insertMembership _ => .insertMembership
  | commit => .commit
  | rollback => .rollback

end GroupAccess
