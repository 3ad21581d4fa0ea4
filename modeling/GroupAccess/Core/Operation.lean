import GroupAccess.Core.Accounts
import GroupAccess.Core.Groups

namespace GroupAccess

/-- What the operations depend on beside the store. -/
structure Policy where
  tokens : TokenPolicy
  passwords : PasswordPolicy

/-- Random values for one operation, which takes what it needs. -/
structure Draws where
  user : UserId
  group : GroupId
  role : RoleId
  invite : InviteId
  token : TokenId
  secret : Secret
  salt : Password.Salt
  serial : Uuid
  nextSerial : Uuid
  deriving DecidableEq

inductive Operation
  | register (email : String) (password : Password)
  | issueToken (email : String) (password : Password) (kind : String)
  | login (email : String) (password : Password)
  | refresh (token : String)
  | resolveToken (token : String)
  | issueApiKey (user : UserId)
  | findUser (user : UserId)
  | deleteUser (user : UserId)
  | purgeTokens
  | createGroup (owner : UserId) (name : String) (description : Option String)
  | findGroup (group : GroupId)
  | resolveRole (user : UserId) (group : GroupId)
  | createRole (role : Role)
  | findRoleId (role : Role)
  | createInvite (actor : UserId) (group : GroupId) (role : Role) (uses : Int)
  | redeem (invite : InviteId) (user : UserId)
  | inviteUsable (invite : InviteId) (group : GroupId)
  | health

namespace Operation

/-- The name under which an operation is timed. -/
def name : Operation → String
  | register _ _ => "register_user"
  | issueToken _ _ _ => "issue_token"
  | login _ _ => "login"
  | refresh _ => "refresh"
  | resolveToken _ => "resolve_token"
  | issueApiKey _ => "issue_api_key"
  | findUser _ => "find_user"
  | deleteUser _ => "delete_user"
  | purgeTokens => "purge_expired_tokens"
  | createGroup _ _ _ => "create_group"
  | findGroup _ => "find_group"
  | resolveRole _ _ => "resolve_role"
  | createRole _ => "create_role"
  | findRoleId _ => "get_role_id"
  | createInvite _ _ _ _ => "create_invite"
  | redeem _ _ => "redeem_invite"
  | inviteUsable _ _ => "invite_exists"
  | health => "health_check"

abbrev Result : Operation → Type
  | register _ _ => User
  | issueToken _ _ _ => IssuedToken
  | login _ _ => TokenPair
  | refresh _ => IssuedToken
  | resolveToken _ => UserId
  | issueApiKey _ => IssuedToken
  | findUser _ => User
  | deleteUser _ => Bool
  | purgeTokens => Nat
  | createGroup _ _ _ => Group
  | findGroup _ => Group
  | resolveRole _ _ => Role
  | createRole _ => RoleId
  | findRoleId _ => Option RoleId
  | createInvite _ _ _ _ => Invite
  | redeem _ _ => Membership
  | inviteUsable _ _ => Bool
  | health => Unit

/-- A rejected token is counted by the reason. -/
def countingAuth {α : Type} (p : Program α) : Program α :=
  p.countingRefusal fun e => .authFailure e.label

def program (policy : Policy) (now : Instant) (d : Draws) : (o : Operation) → Program o.Result
  | register email password =>
    Accounts.register policy.passwords now email password d.user d.salt
  | issueToken email password kind =>
    Accounts.issueToken policy.passwords policy.tokens now email password kind d.serial d.token
      d.secret
  | login email password =>
    Accounts.login policy.passwords policy.tokens now email password d.serial d.nextSerial
  | refresh token => countingAuth (Tokens.refresh policy.tokens now token d.serial)
  | resolveToken token => countingAuth (Tokens.resolve policy.tokens now token)
  | issueApiKey user => Tokens.issueSecret now user none d.token d.secret
  | findUser user => Accounts.find user
  | deleteUser user => Accounts.delete user
  | purgeTokens => .ask (.purgeTokens now)
  | createGroup owner name description => Groups.create now owner name description d.group d.role
  | findGroup group => Groups.find group
  | resolveRole user group => Groups.resolveRole user group
  | createRole role => .ask (.createRole role d.role)
  | findRoleId role => .ask (.findRoleId role)
  | createInvite actor group role uses => Invites.create actor group role uses d.invite d.role
  | redeem invite user => Invites.redeem invite user
  | inviteUsable invite group => .ask (.inviteUsable invite group)
  | health => .ask .health

end Operation

end GroupAccess
