import GroupAccess.Json.Decode

namespace GroupAccess.KeyHint

open Json

def decodeItems {α : Type} (decode : Decoder α) : List Draft → Except Fault (List α)
  | [] => .ok []
  | d :: rest => do return (← decode d) :: (← decodeItems decode rest)

def decodeList {α : Type} (decode : Decoder α) : Decoder (List α)
  | .array items => decodeItems decode items
  | d => .error d.unexpected

def decodeName (names : List String) : Decoder String :=
  decodeCase fun s => if s ∈ names then some s else none

def algorithms : List String :=
  ["HS256", "HS384", "HS512", "ES256", "ES384", "RS256", "RS384", "RS512", "PS256", "PS384",
    "PS512", "EdDSA", "RSA1_5", "RSA-OAEP", "RSA-OAEP-256"]

def curves : List String := ["P-256", "P-384", "P-521", "Ed25519"]

/-- Fields that every key may have. -/
def commonFields : List Field :=
  [field "use" (decodeOption decodeString),
    field "key_ops" (decodeOption (decodeList decodeString)),
    field "alg" (decodeOption (decodeName algorithms)),
    field "kid" (decodeOption decodeString), field "x5u" (decodeOption decodeString),
    field "x5c" (decodeOption (decodeList decodeString)),
    field "x5t" (decodeOption decodeString), field "x5t#S256" (decodeOption decodeString)]

/-- The fields that a key of one type must have. -/
def typeFields : List (List Field) :=
  [[field "kty" (decodeName ["EC"]), field "crv" (decodeName curves), field "x" decodeString,
      field "y" decodeString],
    [field "kty" (decodeName ["RSA"]), field "n" decodeString, field "e" decodeString],
    [field "kty" (decodeName ["oct"]), field "k" decodeString],
    [field "kty" (decodeName ["OKP"]), field "crv" (decodeName curves), field "x" decodeString]]

def hasAll (known : List Field) (fields : List (Option String × Draft)) : Bool :=
  match collectFields known [] fields with
  | .ok found => known.all fun f => (found.lookup f.name).isSome
  | .error _ => false

/-- The public key that the header of a signed token may carry. It is checked and never used. -/
def decode : Decoder Unit
  | .object fields => do
    let _ ← collectFields commonFields [] fields
    if typeFields.any (hasAll · fields) then .ok () else .error .mismatched
  | d => .error d.unexpected

end GroupAccess.KeyHint
