import GroupAccess.Bytes.Hex
import GroupAccess.Hash.Sha256
import GroupAccess.Ident.Uuid
import GroupAccess.Time.Instant
import GroupAccess.Token.Presented

namespace GroupAccess

namespace Secret

/-- The digest of the bytes of a secret, in hexadecimal. -/
def digestOf (bytes : List UInt8) : String := String.ofList (Hex.encode (Sha256.digest bytes))

def digest (s : Secret) : String := digestOf s.toList

end Secret

structure SecretRecord where
  id : TokenId
  user : UserId
  digest : String
  /-- The last instant at which the token is valid; a token without one never expires. -/
  expiry : Option Instant
  created : Instant
  deriving DecidableEq

namespace SecretRecord

def isExpired (r : SecretRecord) (now : Instant) : Bool :=
  match r.expiry with
  | some expiry => expiry < now
  | none => false

def expires (r : SecretRecord) : Bool := r.expiry.isSome

/-- The instant that is shown as the expiry; that of the creation where there is none. -/
def shownExpiry (r : SecretRecord) : Instant := r.expiry.getD r.created

/-- The instant that is shown does not matter for a token that never expires. -/
theorem isExpired_eq (r : SecretRecord) (now : Instant) :
    r.isExpired now = (r.expires && decide (r.shownExpiry < now)) := by
  unfold isExpired expires shownExpiry
  cases r.expiry with
  | none => rfl
  | some expiry => simp

end SecretRecord

end GroupAccess
