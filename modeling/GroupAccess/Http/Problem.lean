import GroupAccess.Config.Settings
import GroupAccess.Core.Refusal
import GroupAccess.Json.Value

namespace GroupAccess

inductive Problem
  | badRequest (message : String) (field : Option String)
  | unprocessable (message : String) (field : Option String)
  | unauthorized (message : String)
  | forbidden (message : String)
  | notFound (message : String)
  | conflict (message : String) (field : Option String)
  | internal (cause : String)
  | unavailable
  | config (cause : String)
  deriving DecidableEq, Repr

namespace Problem

def describe : Problem → String
  | .badRequest message _ => s!"Bad request: {message}"
  | .unprocessable message _ => s!"Unprocessable entity: {message}"
  | .unauthorized message => s!"Unauthorized: {message}"
  | .forbidden message => s!"Forbidden: {message}"
  | .notFound message => s!"Not found: {message}"
  | .conflict message _ => s!"Conflict: {message}"
  | .internal cause => s!"Internal server error: {cause}"
  | .unavailable => "Service Unavailable"
  | .config cause => s!"Configuration error: {cause}"

def status : Problem → Nat
  | .badRequest _ _ => 400
  | .unprocessable _ _ => 422
  | .unauthorized _ => 401
  | .forbidden _ => 403
  | .notFound _ => 404
  | .conflict _ _ => 409
  | .internal _ => 500
  | .unavailable => 503
  | .config _ => 500

def message : Problem → String
  | .badRequest message _ => message
  | .unprocessable message _ => message
  | .unauthorized message => message
  | .forbidden message => message
  | .notFound message => message
  | .conflict message _ => message
  | .unavailable => "Service unavailable"
  | .internal _ => "Internal server error"
  | .config _ => "Internal server error"

def field? : Problem → Option String
  | .badRequest _ field => field
  | .unprocessable _ field => field
  | .conflict _ field => field
  | _ => none

def body (p : Problem) : Json :=
  .object (("error", .string p.message) ::
    p.field?.toList.map fun field => ("field", .string field))

def ofRefusal (e : Refusal) : Problem :=
  match e with
  | .badCredentials => .unauthorized e.message
  | .tokenInvalid => .unauthorized e.message
  | .passwordTooWeak => .unprocessable e.message (some "password")
  | .passwordTooLong _ => .unprocessable e.message (some "password")
  | .emailInvalid => .unprocessable e.message (some "email")
  | .emailAlreadyInUse => .conflict e.message (some "email")
  | .badTokenKind _ => .badRequest e.message (some "kind")
  | .badInviteLimit => .unprocessable e.message (some "max_uses")
  | .inviteExhausted => .conflict e.message none
  | .alreadyInGroup => .conflict e.message none
  | .conflict _ => .conflict e.message none
  | .groupNameInvalid => .unprocessable e.message (some "name")
  | .groupNameTaken => .conflict e.message (some "name")
  | .inviteNotFound => .notFound e.message
  | .groupNotFound => .notFound e.message
  | .notAMember => .forbidden e.message
  | .forbidden _ => .forbidden e.message
  | .internal text => .internal text

def ofConfigFault (e : ConfigFault) : Problem := .config e.message

/-- Clients are told that the service failed, and not why. -/
theorem body_of_status {p : Problem} (h : p.status = 500) :
    p.body = .object [("error", .string "Internal server error")] := by
  cases p with
  | internal cause => rfl
  | config cause => rfl
  | _ => cases h

theorem ofConfigFault_body (e e' : ConfigFault) :
    (ofConfigFault e).body = (ofConfigFault e').body :=
  (body_of_status rfl).trans (body_of_status rfl).symm

/-- What a request without a valid token is told, whatever is wrong with it. -/
def unauthenticated : Problem := .unauthorized "Missing or invalid credentials"

end Problem

end GroupAccess
