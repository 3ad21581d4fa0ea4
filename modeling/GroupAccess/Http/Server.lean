import GroupAccess.Config.Settings
import GroupAccess.Core.Service
import GroupAccess.Http.Message
import GroupAccess.Http.Render
import GroupAccess.Http.Route

namespace GroupAccess

/-- What answers a request. -/
abbrev Handler := Service → Reply × Service

namespace Handler

def reply (r : Reply) : Handler := fun s => (r, s)

/-- Carries out an operation and goes on with its result; a refusal is the answer. -/
def perform (o : Operation) (d : Draws) (next : o.Result → Handler) : Handler := fun s =>
  match s.perform o d with
  | (.ok a, s) => next a s
  | (.error e, s) => (.problem (.ofRefusal e), s)

def withForm (α : Type) [Form α] (req : Request) (next : α → Handler) : Handler :=
  match req.form α with
  | .ok a => next a
  | .error p => reply (.problem p)

/-- Goes on with the identifier that a segment names. -/
def withId (segment : List Char) (next : Uuid → Handler) : Handler :=
  match (Url.segment? segment).bind Uuid.ofText? with
  | some id => next id
  | none => reply (.text 400 "Invalid URL")

def ok (j : Json) : Handler := reply (.json 200 j)

def created (j : Json) : Handler := reply (.json 201 j)

end Handler

open Handler

namespace Server

/-- Whether the store answers, and which service this is. -/
def health (settings : Settings) (d : Draws) : Handler := fun s =>
  match s.perform .health d with
  | (.ok _, s) =>
    (.json 200 (.object [("status", .string "healthy"), ("service", .string settings.serviceName),
      ("version", .string settings.serviceVersion),
      ("environment", .string settings.environment.name),
      ("store", .string settings.store.backend.name)]), s)
  | (.error _, s) => (.problem .unavailable, s)

def metrics : Handler := fun s => (.text 200 s.counters.text, s)

def register (req : Request) (d : Draws) : Handler :=
  withForm RegisterForm req fun f =>
    perform (.register f.email ⟨f.password⟩) d fun user => created user.toJson

def token (req : Request) (d : Draws) : Handler :=
  withForm TokenForm req fun f =>
    match f.kind with
    | some kind => perform (.issueToken f.email ⟨f.password⟩ kind) d fun t => ok t.toJson
    | none => perform (.login f.email ⟨f.password⟩) d fun p => ok p.toJson

def refresh (req : Request) (d : Draws) : Handler :=
  withForm RefreshForm req fun f => perform (.refresh f.refreshToken) d fun t => ok t.toJson

def createGroup (req : Request) (user : UserId) (d : Draws) : Handler :=
  withForm GroupForm req fun f =>
    perform (.createGroup user f.name f.description) d fun g => created g.toJson

def createInvite (req : Request) (user : UserId) (segment : List Char) (d : Draws) : Handler :=
  withId segment fun group =>
    withForm InviteForm req fun f =>
      perform (.createInvite user ⟨group⟩ f.role f.maxUses) d fun i => created i.toJson

def role (user : UserId) (segment : List Char) (d : Draws) : Handler :=
  withId segment fun group =>
    perform (.resolveRole user ⟨group⟩) d fun r =>
      ok (.object [("group_id", .string group.text), ("role", r.toJson)])

/-- Whether an invite still leads to the group that the query names. -/
def checkInvite (target : Url.Target) (segment : List Char) (d : Draws) : Handler :=
  withId segment fun invite =>
    match (target.only? "group_id").bind Uuid.ofText? with
    | none => reply (.text 400 "Failed to deserialize query string")
    | some group =>
      perform (.inviteUsable ⟨invite⟩ ⟨group⟩) d fun valid =>
        ok (.object [("invite_id", .string invite.text), ("valid", .bool valid)])

/-- The answer shows the role in effect, which is looked up after the redemption. -/
def redeem (user : UserId) (segment : List Char) (d : Draws) : Handler :=
  withId segment fun invite =>
    perform (.redeem ⟨invite⟩ user) d fun m =>
      perform (.resolveRole m.user m.group) d fun r => ok (m.toJson r)

/-- What answers a public route. -/
def unguarded (settings : Settings) (req : Request) (d : Draws) : Route → Handler
  | .health => health settings d
  | .metrics => metrics
  | .register => register req d
  | .token => token req d
  | .refresh => refresh req d
  | _ => reply (.empty 404)

/-- What answers a protected route for a user. -/
def guarded (req : Request) (target : Url.Target) (user : UserId) (d : Draws) :
    Route → Route.Verb → Handler
  | .me, .delete => perform (.deleteUser user) d fun _ => reply (.empty 204)
  | .me, _ => perform (.findUser user) d fun u => ok u.toJson
  | .apiKeys, _ => perform (.issueApiKey user) d fun t => created t.toJson
  | .groups, _ => createGroup req user d
  | .groupInvites segment, _ => createInvite req user segment d
  | .groupRole segment, _ => role user segment d
  | .invite segment, _ => checkInvite target segment d
  | .redeem segment, _ => redeem user segment d
  | _, _ => reply (.empty 404)

/-- Goes on for the user whose token a request carries. Whatever is wrong with the token, the
answer is the same. -/
def gate (req : Request) (d : Draws) (next : UserId → Handler) : Handler := fun s =>
  match req.bearer? with
  | none => (.problem .unauthenticated, s)
  | some token =>
    match s.perform (.resolveToken token) d with
    | (.ok user, s) => next user s
    | (.error _, s) => (.problem .unauthenticated, s)

/-- A route that does not answer the method says so; behind the gate only to users. -/
def dispatch (settings : Settings) (req : Request) (d : Draws) : Handler :=
  let target := Url.Target.ofText req.target
  match Route.ofSegments target.segments with
  | none => gate req d fun _ => reply (.empty 404)
  | some route =>
    match route.verb? req.method, route.isPublic with
    | none, true => reply (.empty 405)
    | none, false => gate req d fun _ => reply (.empty 405)
    | some _, true => unguarded settings req d route
    | some verb, false => gate req d fun user => guarded req target user d route verb

/-- Whether only the head of an answer is wanted, from a route that gives one. -/
def wantsHead (req : Request) : Bool :=
  req.method == "HEAD" &&
    ((Route.ofSegments (Url.Target.ofText req.target).segments).bind
      (·.verb? req.method)).isSome

/-- An answer and the identifier of the request, which is the one given or else `fresh`. -/
structure Response where
  requestId : String
  reply : Reply

def handle (settings : Settings) (req : Request) (fresh : Uuid) (d : Draws) (s : Service) :
    Response × Service :=
  let (r, s) := dispatch settings req d s
  (⟨req.givenId?.getD fresh.text, if wantsHead req then r.withoutContent else r⟩, s)

end Server

end GroupAccess
