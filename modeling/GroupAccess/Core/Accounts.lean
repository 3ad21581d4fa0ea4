import GroupAccess.Core.Tokens
import GroupAccess.Email.Address
import GroupAccess.Password.Hashing

namespace GroupAccess

/-- What passwords have to be like and what they are hashed with. -/
structure PasswordPolicy where
  serverSecret : String
  minEntropy : Float
  maxBytes : Nat

namespace Refusal

def ofPassword : Password.PasswordError → Refusal
  | .tooLong limit => .passwordTooLong limit
  | .tooWeak _ _ => .passwordTooWeak

end Refusal

namespace Accounts

/-- The address is checked first, then whether it is free, then the password. Another account may
take the address up to the last call. The account is created at `now`. -/
def register (policy : PasswordPolicy) (now : Instant) (email : String) (password : Password)
    (id : UserId) (salt : Password.Salt) : Program User := do
  let email := Email.normalize email
  unless Email.isValid email do throw .emailInvalid
  if (← .ask (.findUserByEmail email)).isSome then throw .emailAlreadyInUse
  let _ ← .lift ((password.checkStrength policy.minEntropy).mapError Refusal.ofPassword)
  let passwordHash ← .lift
    ((password.hash policy.serverSecret policy.maxBytes salt).mapError Refusal.ofPassword)
  let user : User := { id, email, passwordHash, created := now }
  .ask (.createUser user) fun
    | .conflict _ => .emailAlreadyInUse
    | e => .ofStore e
  return user

def rejected : Program User :=
  .count (.authFailure Refusal.badCredentials.label) (.refuse .badCredentials)

/-- The account with an address and a password; it is not told which of them is wrong. -/
def authenticate (policy : PasswordPolicy) (email : String) (password : Password) :
    Program User := do
  match ← Program.ask (.findUserByEmail (Email.normalize email)) with
  | some user =>
    if password.verify user.passwordHash policy.serverSecret then return user else rejected
  | none => rejected

/-- A single token of a named kind. The kind is read before the credentials are looked at. -/
def issueToken (passwords : PasswordPolicy) (tokens : TokenPolicy) (now : Instant) (email : String)
    (password : Password) (kind : String) (serial : Uuid) (id : TokenId) (secret : Secret) :
    Program IssuedToken := do
  let kind ← .require (.badTokenKind kind) (TokenKind.ofText? kind)
  let user ← authenticate passwords email password
  match kind with
  | .signed => Tokens.issueSigned tokens now user.id .access tokens.accessLifetime serial
  | .secret => Tokens.issueSecret now user.id (some tokens.secretLifetime) id secret

def login (passwords : PasswordPolicy) (tokens : TokenPolicy) (now : Instant) (email : String)
    (password : Password) (first second : Uuid) : Program TokenPair := do
  let user ← authenticate passwords email password
  Tokens.issuePair tokens now user.id first second

/-- A user that is gone has no valid token. -/
def find (id : UserId) : Program User := do
  Program.require .tokenInvalid (← .ask (.findUser id))

def delete (id : UserId) : Program Bool := .ask (.deleteUser id)

end Accounts

end GroupAccess
