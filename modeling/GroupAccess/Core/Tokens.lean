import GroupAccess.Core.Program
import GroupAccess.Token.Signed

namespace GroupAccess

/-- How long tokens live and what they are signed with. -/
structure TokenPolicy where
  signingKey : String
  accessMinutes : Int
  refreshDays : Int
  secretDays : Int
  deriving DecidableEq, Repr

namespace TokenPolicy

def key (p : TokenPolicy) : List UInt8 := utf8 p.signingKey

def accessLifetime (p : TokenPolicy) : Span := .minutes p.accessMinutes

def refreshLifetime (p : TokenPolicy) : Span := .days p.refreshDays

def secretLifetime (p : TokenPolicy) : Span := .days p.secretDays

end TokenPolicy

/-- A fresh token as its owner gets it. -/
structure IssuedToken where
  text : String
  kind : TokenKind
  expiry : Option Instant
  deriving DecidableEq

/-- An access token and the refresh token that renews it. -/
structure TokenPair where
  access : String
  refresh : String
  /-- Whole seconds that the access token lives. -/
  expiresIn : Int
  deriving DecidableEq

namespace Tokens

def expiryAfter (now : Instant) (lifetime : Span) : Except Refusal Instant :=
  match now.add? lifetime with
  | some expiry => .ok expiry
  | none => .error (.internal s!"token lifetime {lifetime.text} out of range")

def claims (now expiry : Instant) (user : UserId) (audience : Audience) (serial : Uuid) : Claims :=
  { subject := user.uuid.text, audience, issued := now.seconds, notBefore := now.seconds
    expiry := expiry.seconds, serial := serial.text }

def issueSigned (policy : TokenPolicy) (now : Instant) (user : UserId) (audience : Audience)
    (lifetime : Span) (serial : Uuid) : Program IssuedToken := do
  let expiry ← .lift (expiryAfter now lifetime)
  .tell (.tokenIssued .signed)
  return {
    text := String.ofList (Signed.write policy.key (claims now expiry user audience serial))
    kind := .signed
    expiry := some expiry }

/-- The record is stored before the token is handed out. -/
def issueSecret (now : Instant) (user : UserId) (lifetime : Option Span) (id : TokenId)
    (secret : Secret) : Program IssuedToken := do
  let expiry ← .lift (lifetime.mapM (expiryAfter now))
  let record : SecretRecord := { id, user, digest := secret.digest, expiry, created := now }
  .ask (.createToken record) fun e => .internal s!"Failed to persist opaque token: {e.message}"
  .tell (.tokenIssued .secret)
  return { text := secret.text, kind := .secret, expiry }

def issuePair (policy : TokenPolicy) (now : Instant) (user : UserId) (first second : Uuid) :
    Program TokenPair := do
  let access ← issueSigned policy now user .access policy.accessLifetime first
  let refresh ← issueSigned policy now user .refresh policy.refreshLifetime second
  return ⟨access.text, refresh.text, policy.accessLifetime.seconds⟩

/-- The user that some claims name, if they are for `audience` and valid at `now`. -/
def accept (now : Instant) (audience : Audience) (c : Claims) : Option UserId :=
  if c.notBefore ≤ now.seconds ∧ now.seconds ≤ c.expiry ∧ c.audience = audience then
    (Uuid.ofText? c.subject).map UserId.mk
  else none

def acceptSigned (policy : TokenPolicy) (now : Instant) (audience : Audience)
    (header claims signature : List Char) : Option UserId :=
  (Signed.open? policy.key header claims signature).bind (accept now audience)

def resolveSecret (now : Instant) (s : Secret) : Program UserId := do
  let record ← Program.require .tokenInvalid (← .ask (.findToken s.digest))
  if record.isExpired now then .refuse .tokenInvalid else return record.user

/-- A token of a user that is gone is invalid. -/
def whileRegistered (user : UserId) : Program UserId := do
  if ← .ask (.userExists user) then return user else .refuse .tokenInvalid

/-- Whose access token a text is. -/
def resolve (policy : TokenPolicy) (now : Instant) (text : String) : Program UserId := do
  match ← Program.require .tokenInvalid (Presented.ofText? text) with
  | .signed header claims signature =>
    let user? := acceptSigned policy now .access header claims signature
    whileRegistered (← .require .tokenInvalid user?)
  | .secret s => whileRegistered (← resolveSecret now s)

/-- A new access token for a signed refresh token. -/
def refresh (policy : TokenPolicy) (now : Instant) (text : String) (serial : Uuid) :
    Program IssuedToken := do
  match ← Program.require .tokenInvalid (Presented.ofText? text) with
  | .signed header claims signature =>
    let user ← .require .tokenInvalid (acceptSigned policy now .refresh header claims signature)
    let user ← whileRegistered user
    issueSigned policy now user .access policy.accessLifetime serial
  | .secret _ => .refuse .tokenInvalid

end Tokens

end GroupAccess
