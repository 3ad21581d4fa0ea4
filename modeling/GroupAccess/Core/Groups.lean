import GroupAccess.Core.Program
import GroupAccess.Text.Basic

namespace GroupAccess

namespace Groups

/-- A group with its owner as the first member, created at `now`. Names are trimmed. -/
def create (now : Instant) (owner : UserId) (name : String) (description : Option String)
    (id : GroupId) (fresh : RoleId) : Program Group := do
  let name := Text.trim name
  if name.isEmpty then throw .groupNameInvalid
  let role ← .ask (.createRole .full fresh)
  let group : Group := { id, name, description := description.getD "", owner, created := now }
  .ask (.createGroup group (.owner owner id role)) fun
    | .conflict _ => .groupNameTaken
    | e => .ofStore e
  return group

def find (id : GroupId) : Program Group := do
  Program.require .groupNotFound (← .ask (.findGroup id))

def resolveRole (user : UserId) (group : GroupId) : Program Role := do
  let membership ← .require .notAMember (← .ask (.findMembership user group))
  let holder := s!"membership of {user.uuid.text} in {group.uuid.text}"
  let missing := s!"{holder} references missing role {membership.role.uuid.text}"
  let stored ← .require (.internal missing) (← .ask (.findRole membership.role))
  return membership.effectiveRole stored

end Groups

namespace Invites

/-- What an outsider is told when it tries to invite. -/
def asOutsider : Refusal → Refusal
  | .notAMember => .forbidden "manage_members"
  | e => e

/-- An invite for at most `uses` users. The actor has to manage members and cannot hand out more
than its own role. -/
def create (actor : UserId) (group : GroupId) (role : Role) (uses : Int) (id : InviteId)
    (fresh : RoleId) : Program Invite := do
  if uses ≤ 0 then throw .badInviteLimit
  if (← .ask (.findGroup group)).isNone then throw .groupNotFound
  let own ← (Groups.resolveRole actor group).catching fun e => .refuse (asOutsider e)
  unless own.allows .manageMembers do throw (.forbidden "manage_members")
  unless own.covers role do throw (.forbidden "granted role exceeds own role")
  let roleId ← .ask (.createRole role fresh)
  let invite : Invite := { id, group, role := roleId, remaining := uses, createdBy := actor }
  .ask (.createInvite invite)
  return invite

/-- Takes back what the open transaction wrote before a refusal goes on. -/
def orRollback {α : Type} (p : Program α) : Program α :=
  p.catching fun e => .call .rollback fun _ => .refuse e

/-- Takes one use and writes the membership. -/
def enrol (invite : InviteId) (user : UserId) : Program Membership := do
  let grant ← .ask (.decrement invite) fun
    | .notFound => .inviteNotFound
    | .exhausted => .inviteExhausted
    | e => .ofStore e
  let membership : Membership := { user, group := grant.group, role := grant.role }
  .ask (.insertMembership membership) fun
    | .conflict _ => .alreadyInGroup
    | e => .ofStore e
  return membership

/-- One transaction, so that a use is taken only by a redemption that admits someone. -/
def redeemInTransaction (invite : InviteId) (user : UserId) : Program Membership := do
  .ask .begin
  let membership ← orRollback (enrol invite user)
  .ask .commit fun e => .internal s!"Failed to commit invite redemption: {e.message}"
  return membership

/-- A redemption, counted by its outcome. -/
def redeem (invite : InviteId) (user : UserId) : Program Membership := do
  let membership ← (redeemInTransaction invite user).countingRefusal fun e => .redemption e.label
  .tell (.redemption "ok")
  return membership

end Invites

end GroupAccess
