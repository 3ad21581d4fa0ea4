import GroupAccess.Json.Decode
import GroupAccess.Role.Basic

namespace GroupAccess

namespace Role

open Json

def adminBounds : Decimal.Bounds := .signed 16

def fields : List Field :=
  [optionalField "manage_members" decodeBool, optionalField "manage_tasks" decodeBool,
    optionalField "review" decodeBool, optionalField "comment" decodeBool,
    optionalField "admin" (decodeInt adminBounds)]

def decode : Decoder Role :=
  decodeRecord fields fun found => do
    return {
      manageMembers := ← found.getD "manage_members" decodeBool false
      manageTasks := ← found.getD "manage_tasks" decodeBool false
      review := ← found.getD "review" decodeBool false
      comment := ← found.getD "comment" decodeBool false
      admin := ← found.getD "admin" (decodeInt adminBounds) 0 }

end Role

/-- A field that breaks a rule on lengths; some rules have a text. -/
structure Violation where
  field : String
  message : Option String
  deriving DecidableEq, Repr

/-- The rule's text or the name of the rule. -/
def Violation.text (v : Violation) : String :=
  s!"{v.field}: " ++ v.message.getD "Validation error: length"

class Form (α : Type) where
  decode : Json.Decoder α
  /-- The broken rules in the order of the names of the fields. -/
  violations : α → List Violation

open Json

def checkLength (field : String) (low : Nat) (high : Option Nat) (message : Option String)
    (text : String) : List Violation :=
  if text.length < low || high.any (· < text.length) then [⟨field, message⟩] else []

structure RegisterForm where
  email : String
  password : String
  deriving DecidableEq

instance : Form RegisterForm where
  decode := decodeRecord [field "email" decodeString, field "password" decodeString] fun found => do
    return ⟨← found.get "email" decodeString, ← found.get "password" decodeString⟩
  violations f :=
    checkLength "email" 1 (some 255) (some "Email is required") f.email ++
      checkLength "password" 1 none (some "Password is required") f.password

/-- Credentials and the kind of token that is wanted; without a kind, a pair. -/
structure TokenForm where
  email : String
  password : String
  kind : Option String
  deriving DecidableEq

instance : Form TokenForm where
  decode :=
    decodeRecord [field "email" decodeString, field "password" decodeString,
        field "kind" (decodeOption decodeString)] fun found => do
      return ⟨← found.get "email" decodeString, ← found.get "password" decodeString,
        ← found.getD "kind" (decodeOption decodeString) none⟩
  violations f :=
    checkLength "email" 1 none (some "Email is required") f.email ++
      checkLength "password" 1 none (some "Password is required") f.password

structure RefreshForm where
  refreshToken : String
  deriving DecidableEq

instance : Form RefreshForm where
  decode := decodeRecord [field "refresh_token" decodeString] fun found => do
    return ⟨← found.get "refresh_token" decodeString⟩
  violations f :=
    checkLength "refresh_token" 1 none (some "Refresh token is required") f.refreshToken

structure GroupForm where
  name : String
  description : Option String
  deriving DecidableEq

instance : Form GroupForm where
  decode :=
    decodeRecord [field "name" decodeString, field "description" (decodeOption decodeString)]
      fun found => do
        return ⟨← found.get "name" decodeString,
          ← found.getD "description" (decodeOption decodeString) none⟩
  violations f :=
    checkLength "description" 0 (some 1000) none (f.description.getD "") ++
      checkLength "name" 1 (some 100) (some "Name must be 1-100 characters") f.name

/-- The role of those who are admitted is that of a member if none is given. -/
structure InviteForm where
  role : Role
  maxUses : Int
  deriving DecidableEq

def usesBounds : Decimal.Bounds := .signed 32

instance : Form InviteForm where
  decode :=
    decodeRecord [optionalField "role" Role.decode, field "max_uses" (decodeInt usesBounds)]
      fun found => do
        return ⟨← found.getD "role" Role.decode .member,
          ← found.get "max_uses" (decodeInt usesBounds)⟩
  violations _ := []

end GroupAccess
