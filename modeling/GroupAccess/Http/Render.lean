import GroupAccess.Core.Tokens
import GroupAccess.Json.Value

namespace GroupAccess

def User.toJson (u : User) : Json :=
  .object [("user_id", .string u.id.uuid.text), ("email", .string u.email),
    ("created_utc", .string u.created.text)]

def Group.toJson (g : Group) : Json :=
  .object [("group_id", .string g.id.uuid.text), ("name", .string g.name),
    ("description", .string g.description), ("owner_id", .string g.owner.uuid.text),
    ("created_utc", .string g.created.text)]

def Invite.toJson (i : Invite) : Json :=
  .object [("invite_id", .string i.id.uuid.text), ("group_id", .string i.group.uuid.text),
    ("remaining_uses", .int i.remaining)]

/-- A token that never expires has no expiry. -/
def IssuedToken.toJson (t : IssuedToken) : Json :=
  .object ([("token", .string t.text), ("kind", .string t.kind.name)] ++
    t.expiry.toList.map fun e => ("expires_at", .string e.text))

def TokenPair.scheme : String := "Bearer"

def TokenPair.toJson (p : TokenPair) : Json :=
  .object [("access_token", .string p.access), ("refresh_token", .string p.refresh),
    ("token_type", .string TokenPair.scheme), ("expires_in", .int p.expiresIn)]

def Role.toJson (r : Role) : Json :=
  .object [("manage_members", .bool r.manageMembers), ("manage_tasks", .bool r.manageTasks),
    ("review", .bool r.review), ("comment", .bool r.comment), ("admin", .int r.admin)]

/-- A membership with the role in effect. -/
def Membership.toJson (m : Membership) (role : Role) : Json :=
  .object [("user_id", .string m.user.uuid.text), ("group_id", .string m.group.uuid.text),
    ("role", role.toJson)]

/-- The text in which counters are read by a monitor. -/
def Counters.text (c : Counters) : String :=
  String.join (c.entries.map fun (e, n) => s!"{e.sample} {n}\n")

end GroupAccess
