import GroupAccess.Json.Value
import GroupAccess.Token.Kind

namespace GroupAccess

/-- Times are seconds since the start of 1970. -/
structure Claims where
  subject : String
  audience : Audience
  issued : Int
  notBefore : Int
  expiry : Int
  /-- Tells one token from another. -/
  serial : String
  deriving DecidableEq, Repr

namespace Claims

open Json

def timeBounds : Decimal.Bounds := .signed 64

def fields : List Field :=
  [field "sub" decodeString, field "aud" Audience.decode, field "iat" (decodeInt timeBounds),
    field "nbf" (decodeInt timeBounds), field "exp" (decodeInt timeBounds),
    field "jti" decodeString]

def decode : Decoder Claims :=
  decodeRecord fields fun found => do
    return {
      subject := ← found.get "sub" decodeString
      audience := ← found.get "aud" Audience.decode
      issued := ← found.get "iat" (decodeInt timeBounds)
      notBefore := ← found.get "nbf" (decodeInt timeBounds)
      expiry := ← found.get "exp" (decodeInt timeBounds)
      serial := ← found.get "jti" decodeString }

def toJson (c : Claims) : Json :=
  .object [("sub", .string c.subject), ("aud", .string c.audience.name), ("iat", .int c.issued),
    ("nbf", .int c.notBefore), ("exp", .int c.expiry), ("jti", .string c.serial)]

end Claims

end GroupAccess
