import GroupAccess.Http.Url

namespace GroupAccess

/-- A path; what names a group or an invite is kept as it is written. -/
inductive Route
  | health
  | metrics
  | register
  | token
  | refresh
  | me
  | apiKeys
  | groups
  | groupInvites (group : List Char)
  | groupRole (group : List Char)
  | invite (invite : List Char)
  | redeem (invite : List Char)
  deriving DecidableEq

namespace Route

/-- The route of the segments of a path. A name at the end of a path is not empty. -/
def ofSegments (segments : List (List Char)) : Option Route :=
  match segments with
  | [a] =>
    match String.ofList a with
    | "health" => some .health
    | "metrics" => some .metrics
    | "groups" => some .groups
    | _ => none
  | [a, b] =>
    match String.ofList a, String.ofList b with
    | "auth", "register" => some .register
    | "auth", "token" => some .token
    | "auth", "refresh" => some .refresh
    | "users", "me" => some .me
    | "invites", _ => if b.isEmpty then none else some (.invite b)
    | _, _ => none
  | [a, b, c] =>
    match String.ofList a, String.ofList b, String.ofList c with
    | "users", "me", "api-keys" => some .apiKeys
    | "groups", _, "invites" => some (.groupInvites b)
    | "groups", _, "role" => some (.groupRole b)
    | "invites", _, "redeem" => some (.redeem b)
    | _, _, _ => none
  | _ => none

def isPublic : Route → Bool
  | health => true
  | metrics => true
  | register => true
  | token => true
  | refresh => true
  | _ => false

inductive Verb
  | get
  | post
  | delete
  deriving DecidableEq, Repr

def verbs : Route → List Verb
  | health => [.get]
  | metrics => [.get]
  | register => [.post]
  | token => [.post]
  | refresh => [.post]
  | me => [.get, .delete]
  | apiKeys => [.post]
  | groups => [.post]
  | groupInvites _ => [.post]
  | groupRole _ => [.get]
  | invite _ => [.get]
  | redeem _ => [.post]

/-- The verb of a method, whose case counts; a request for the head alone is one to get. -/
def Verb.ofMethod? (method : String) : Option Verb :=
  match method with
  | "GET" => some .get
  | "HEAD" => some .get
  | "POST" => some .post
  | "DELETE" => some .delete
  | _ => none

/-- The verb of a method, if the route answers it. -/
def verb? (r : Route) (method : String) : Option Verb :=
  (Verb.ofMethod? method).filter (· ∈ r.verbs)

end Route

end GroupAccess
