import GroupAccess.Http.Form
import GroupAccess.Http.MediaType
import GroupAccess.Http.Problem
import GroupAccess.Text.Basic

namespace GroupAccess

structure Request where
  method : String
  /-- The path and the query. -/
  target : String
  headers : List (String × List UInt8)
  body : List UInt8

/-- What a request is answered with. -/
inductive Content
  | empty
  | json (j : Json)
  | text (s : String)

structure Reply where
  status : Nat
  content : Content

namespace Reply

def json (status : Nat) (j : Json) : Reply := ⟨status, .json j⟩

def empty (status : Nat) : Reply := ⟨status, .empty⟩

def text (status : Nat) (s : String) : Reply := ⟨status, .text s⟩

def problem (p : Problem) : Reply := .json p.status p.body

def withoutContent (r : Reply) : Reply := { r with content := .empty }

end Reply

namespace Request

/-- The text of visible characters, blanks and tabs. -/
def visible? (bytes : List UInt8) : Option String :=
  if bytes.all fun b => b == 0x09 || (0x20 ≤ b && b ≤ 0x7e) then
    some (String.ofList (bytes.map fun b => Char.ofNat b.toNat))
  else none

/-- The first header of a name, which is given in lower case, if it is visible. -/
def header? (r : Request) (name : String) : Option String :=
  (r.headers.find? fun h => Text.asciiLowercase h.1 == name).bind fun h => visible? h.2

def saysJson (r : Request) : Bool := (r.header? "content-type").any MediaType.isJson

def jsonProblem (text : String) : Problem := .badRequest s!"Json parse error: {text}" none

def faultProblem : Json.Fault → Problem
  | .malformed => jsonProblem "Failed to parse the request body as JSON"
  | .mismatched => jsonProblem "Failed to deserialize the JSON body into the target type"

/-- The body as a form that keeps its rules. Text after the first value is not looked at. -/
def form (α : Type) [Form α] (r : Request) : Except Problem α := do
  if r.saysJson then
    let a ← (Json.decodePrefix Form.decode r.body).mapError faultProblem
    match Form.violations a with
    | [] => return a
    | vs =>
      throw (.unprocessable ("Validation error: " ++ "; ".intercalate (vs.map Violation.text)) none)
  else throw (jsonProblem "Expected request with `Content-Type: application/json`")

/-- The token of a request, in the form `Bearer token`. -/
def bearer? (r : Request) : Option String := do
  let value ← r.header? "authorization"
  let token ← Text.after? "Bearer ".toList value.toList
  let token := Text.trimChars token
  guard (!token.isEmpty)
  return String.ofList token

def givenId? (r : Request) : Option String := (r.header? "x-request-id").filter (!·.isEmpty)

end Request

end GroupAccess
