import GroupAccess.Ident.Uuid
import GroupAccess.Role.Basic
import GroupAccess.Time.Instant

namespace GroupAccess

structure User where
  id : UserId
  /-- The normal form of the address. -/
  email : String
  passwordHash : String
  /-- By the clock that tokens are judged by; a clock of its own for records is not modelled, as the
  instant is only shown. -/
  created : Instant
  deriving DecidableEq

structure Group where
  id : GroupId
  name : String
  description : String
  owner : UserId
  /-- By the same clock as that of a user, and only shown. -/
  created : Instant
  deriving DecidableEq

/-- There is at most one membership for each user and group. The time of its creation is left out, as
that of an invite is: neither is ever looked at or shown. -/
structure Membership where
  user : UserId
  group : GroupId
  role : RoleId
  isAdmin : Bool := false
  deriving DecidableEq

namespace Membership

def key (m : Membership) : UserId × GroupId := (m.user, m.group)

/-- The owner of a group is its administrator, whatever the stored role. -/
def owner (user : UserId) (group : GroupId) (role : RoleId) : Membership :=
  { user, group, role, isAdmin := true }

/-- What a member may do, given the stored role. -/
def effectiveRole (m : Membership) (stored : Role) : Role :=
  if m.isAdmin then Role.full else stored.effective

end Membership

structure Invite where
  id : InviteId
  group : GroupId
  role : RoleId
  /-- An invite without remaining uses admits nobody. -/
  remaining : Int
  createdBy : UserId
  deriving DecidableEq

def Invite.isExhausted (i : Invite) : Bool := i.remaining ≤ 0

/-- Where a redeemed invite leads. -/
structure Grant where
  group : GroupId
  role : RoleId
  deriving DecidableEq

def Invite.grant (i : Invite) : Grant := ⟨i.group, i.role⟩

end GroupAccess
