import GroupAccess.Bytes.Base64
import GroupAccess.Hash.Sha256
import GroupAccess.Text.Basic
import GroupAccess.Token.Claims
import GroupAccess.Token.KeyHint

namespace GroupAccess.Signed

open Json

def header : Json := .object [("typ", .string "JWT"), ("alg", .string "HS256")]

def segment (j : Json) : List Char := Base64.encode Base64.urlSafe (utf8 j.text)

def signature (key : List UInt8) (header claims : List Char) : List Char :=
  Base64.encode Base64.urlSafe (Hmac.digest key (utf8 (String.ofList (header ++ '.' :: claims))))

/-- A header, claims and a signature, each in base64, with points between. The signature is the
keyed digest of the first two segments as they are written. -/
def write (key : List UInt8) (c : Claims) : List Char :=
  let h := segment header
  let p := segment c.toJson
  h ++ '.' :: (p ++ '.' :: signature key h p)

/-- The fields of a header, of which only the algorithm is needed. -/
def headerFields : List Field :=
  [field "typ" (decodeOption decodeString),
    field "alg" (KeyHint.decodeName ["HS256"]),
    field "cty" (decodeOption decodeString), field "jku" (decodeOption decodeString),
    field "jwk" (decodeOption KeyHint.decode), field "kid" (decodeOption decodeString),
    field "x5u" (decodeOption decodeString),
    field "x5c" (decodeOption (KeyHint.decodeList decodeString)),
    field "x5t" (decodeOption decodeString), field "x5t#S256" (decodeOption decodeString)]

def decodeHeader : Decoder Unit :=
  decodeRecord headerFields fun found => do
    let _ ← found.get "alg" (KeyHint.decodeName ["HS256"])
    return ()

/-- Whether a header segment names the one algorithm that is used. -/
def headerIsSound (segment : List Char) : Bool :=
  match (Base64.decode? Base64.urlSafe segment).bind ofUtf8? with
  | some text => (decodeAll decodeHeader (utf8 text)).isOk
  | none => false

/-- An issuer is never looked at, but it occurs at most once and is a sound value. -/
def issuerIsSound : Draft → Bool
  | .object fields =>
    match fields.filter fun f => f.1 == some "iss" with
    | [] => true
    | [(_, value)] => value.readable 126
    | _ => false
  | _ => false

/-- The claims in a segment; they are an object. -/
def claims? (segment : List Char) : Option Claims := do
  let bytes ← Base64.decode? Base64.urlSafe segment
  let claims ← (decodeAll Claims.decode bytes).toOption
  guard (issuerIsSound (Parser.parse bytes).1)
  return claims

/-- The claims of a token whose signature is right. It is compared as text, so no token has two. -/
def open? (key : List UInt8) (header claims sig : List Char) : Option Claims :=
  if headerIsSound header ∧ sig = signature key header claims then claims? claims else none

end GroupAccess.Signed
