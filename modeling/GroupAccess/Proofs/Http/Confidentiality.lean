import GroupAccess.Proofs.Http.Gate
import GroupAccess.Proofs.Operation.Alarm
import GroupAccess.Proofs.Operation.Confidentiality

namespace GroupAccess

open Handler

namespace Server

/-- Where an operation is carried out, which decides how a refusal is told. -/
inductive Place
  | gate
  | handler
  | health
  deriving DecidableEq

namespace Place

/-- The answer when an operation is refused there. -/
def refusal : Place → Refusal → Reply
  | gate, _ => .problem .unauthenticated
  | handler, e => .problem (.ofRefusal e)
  | health, _ => .problem .unavailable

/-- The answer when the database fails there. -/
def failure : Place → Reply
  | gate => .json 401 (.object [("error", .string "Missing or invalid credentials")])
  | handler => .json 500 (.object [("error", .string "Internal server error")])
  | health => .json 503 (.object [("error", .string "Service unavailable")])

theorem refusal_internal (p : Place) (text : String) : p.refusal (.internal text) = p.failure := by
  cases p <;> rfl

/-- Why it is internal is not shown. -/
theorem refusal_veiled (p : Place) (e : Refusal) : p.refusal e.veiled = p.refusal e := by
  cases p with
  | handler => cases e <;> rfl
  | gate | health => rfl

end Place

/-- Carries out an operation and goes on with its result; a refusal is told as it is there. -/
def performAt (p : Place) (o : Operation) (d : Draws) (next : o.Result → Handler) : Handler :=
  fun s =>
    match s.perform o d with
    | (.ok a, s) => next a s
    | (.error e, s) => (p.refusal e, s)

variable {p : Place} {o : Operation} {d : Draws} {next : o.Result → Handler} {s t : Service}

theorem performAt_ok {a : o.Result} (h : s.perform o d = (.ok a, t)) :
    performAt p o d next s = next a t := by
  rw [performAt, h]

theorem performAt_error {e : Refusal} (h : s.perform o d = (.error e, t)) :
    performAt p o d next s = (p.refusal e, t) := by
  rw [performAt, h]

theorem gate_eq (req : Request) (d : Draws) (next : UserId → Handler) :
    gate req d next =
      match req.bearer? with
      | none => reply (.problem .unauthenticated)
      | some token => performAt .gate (.resolveToken token) d next := by
  funext s
  unfold gate
  cases req.bearer? with
  | none => rfl
  | some token =>
    simp only [performAt]
    cases s.perform (.resolveToken token) d with
    | mk r t => cases r <;> rfl

theorem perform_eq (o : Operation) (d : Draws) (next : o.Result → Handler) :
    perform o d next = performAt .handler o d next := by
  funext s
  simp only [perform, performAt]
  cases s.perform o d with
  | mk r t => cases r <;> rfl

theorem health_eq (settings : Settings) (d : Draws) :
    Server.health settings d = performAt .health .health d fun _ =>
      ok (.object [("status", .string "healthy"), ("service", .string settings.serviceName),
        ("version", .string settings.serviceVersion),
        ("environment", .string settings.environment.name),
        ("store", .string settings.store.backend.name)]) := by
  funext s
  simp only [health, performAt]
  cases s.perform .health d with
  | mk r t => cases r <;> rfl

/-- An operation that a handler carries out, its place, and the service as it finds it. -/
structure Stage where
  place : Place
  operation : Operation
  service : Service

/-- The stages through which a handler goes on a service. -/
inductive Course (d : Draws) : Handler → Service → List Stage → Prop
  | reply (r : Reply) (s : Service) : Course d (reply r) s []
  | metrics (s : Service) : Course d metrics s []
  | refused (p : Place) {o : Operation} {next : o.Result → Handler} {s t : Service} {e : Refusal}
      (h : s.perform o d = (.error e, t)) : Course d (performAt p o d next) s [⟨p, o, s⟩]
  | done (p : Place) {o : Operation} {next : o.Result → Handler} {s t : Service} {a : o.Result}
      {stages : List Stage} (h : s.perform o d = (.ok a, t)) (hn : Course d (next a) t stages) :
      Course d (performAt p o d next) s (⟨p, o, s⟩ :: stages)

/-- The store reports a failure of the database to the operation. -/
def Stage.Struck (stage : Stage) (d : Draws) : Prop :=
  ∃ text, .database text ∈ stage.service.reported stage.operation d

/-- Whatever happened before, the answer is that of the place. -/
theorem Course.struck {h : Handler} {stages : List Stage} (hc : Course d h s stages) {stage : Stage}
    (hm : stage ∈ stages) (hs : stage.Struck d) : (h s).1 = stage.place.failure := by
  induction hc with
  | reply | metrics => cases hm
  | @refused p o next s t e h =>
    cases List.mem_singleton.1 hm
    obtain ⟨text, hs⟩ := hs
    obtain ⟨cause, he⟩ := Service.perform_alert hs
    rw [h] at he
    cases he
    rw [performAt_error h, Place.refusal_internal]
  | @done p o next s t a stages h _ ih =>
    rw [performAt_ok h]
    rcases List.mem_cons.1 hm with rfl | hm
    · obtain ⟨text, hs⟩ := hs
      obtain ⟨cause, he⟩ := Service.perform_alert hs
      rw [h] at he
      cases he
    · exact ih hm

/-- Handlers that carry out operations among `ok` and go on by what is seen of the results. -/
inductive Composed (d : Draws) (ok : Operation → Prop) : Handler → Prop
  | reply (r : Reply) : Composed d ok (reply r)
  | metrics : Composed d ok metrics
  | performAt (p : Place) {o : Operation} {next : o.Result → Handler} (ho : ok o)
      (hv : ∀ a, next (o.veil a) = next a) (hn : ∀ a, Composed d ok (next a)) :
      Composed d ok (performAt p o d next)

namespace Composed

variable {ok : Operation → Prop} {h : Handler}

theorem perform {o : Operation} {next : o.Result → Handler} (ho : ok o)
    (hv : ∀ a, next (o.veil a) = next a) (hn : ∀ a, Composed d ok (next a)) :
    Composed d ok (perform o d next) := .performAt .handler ho hv hn

theorem withForm {α : Type} [Form α] {req : Request} {next : α → Handler}
    (hn : ∀ a, Composed d ok (next a)) : Composed d ok (withForm α req next) := by
  unfold Handler.withForm
  split
  · exact hn _
  · exact .reply _

theorem withId {segment : List Char} {next : Uuid → Handler}
    (hn : ∀ id, Composed d ok (next id)) : Composed d ok (withId segment next) := by
  unfold Handler.withId
  split
  · exact hn _
  · exact .reply _

theorem gate {req : Request} {next : UserId → Handler} (hok : ∀ o, o.credentials? = none → ok o)
    (hn : ∀ user, Composed d ok (next user)) : Composed d ok (gate req d next) := by
  rw [gate_eq]
  split
  · exact .reply _
  · exact .performAt .gate (hok _ rfl) (fun _ => rfl) hn

theorem course (hc : Composed d ok h) (s : Service) : ∃ stages, Course d h s stages := by
  induction hc generalizing s with
  | reply r => exact ⟨_, .reply r s⟩
  | metrics => exact ⟨_, .metrics s⟩
  | @performAt p o next _ _ _ ih =>
    cases hp : s.perform o d with
    | mk r t =>
      cases r with
      | error e => exact ⟨_, .refused p hp⟩
      | ok a =>
        obtain ⟨stages, hs⟩ := ih a t
        exact ⟨_, .done p hp hs⟩

end Composed

variable {ok : Operation → Prop} (hok : ∀ o, o.credentials? = none → ok o)
include hok

theorem composed_guarded (req : Request) (target : Url.Target) (user : UserId) (d : Draws)
    (route : Route) (verb : Route.Verb) :
    Composed d ok (guarded req target user d route verb) := by
  cases route with
  | me =>
    cases verb with
    | delete => exact .perform (hok _ rfl) (fun _ => rfl) fun _ => .reply _
    | get | post => exact .perform (hok _ rfl) (fun _ => rfl) fun _ => .reply _
  | apiKeys => exact .perform (hok _ rfl) (fun _ => rfl) fun _ => .reply _
  | groups => exact .withForm fun f => .perform (hok _ rfl) (fun _ => rfl) fun _ => .reply _
  | groupInvites segment =>
    refine .withId fun id => .withForm fun f => ?_
    exact .perform (hok _ rfl) (fun _ => rfl) fun _ => .reply _
  | groupRole segment =>
    exact .withId fun id => .perform (hok _ rfl) (fun _ => rfl) fun _ => .reply _
  | invite segment =>
    refine .withId fun id => ?_
    split
    · exact .reply _
    · exact .perform (hok _ rfl) (fun _ => rfl) fun _ => .reply _
  | redeem segment =>
    refine .withId fun id => .perform (hok _ rfl) (fun _ => rfl) fun m => ?_
    exact .perform (hok _ rfl) (fun _ => rfl) fun _ => .reply _
  | health | metrics | register | token | refresh => exact .reply _

theorem composed_unguarded (settings : Settings) (req : Request) (d : Draws) (route : Route)
    (ht : route = .token → ∀ o, ok o) : Composed d ok (unguarded settings req d route) := by
  cases route with
  | health =>
    rw [unguarded, health_eq]
    exact .performAt .health (hok _ rfl) (fun _ => rfl) fun _ => .reply _
  | metrics => exact .metrics
  | register => exact .withForm fun f => .perform (hok _ rfl) (fun _ => rfl) fun _ => .reply _
  | token =>
    refine .withForm fun f => ?_
    split
    · exact .perform (ht rfl _) (fun _ => rfl) fun _ => .reply _
    · exact .perform (ht rfl _) (fun _ => rfl) fun _ => .reply _
  | refresh => exact .withForm fun f => .perform (hok _ rfl) (fun _ => rfl) fun _ => .reply _
  | me | apiKeys | groups | groupInvites _ | groupRole _ | invite _ | redeem _ => exact .reply _

omit hok

theorem verb?_token {method : String} {verb : Route.Verb}
    (h : Route.token.verb? method = some verb) : method = "POST" := by
  obtain ⟨hv, hm⟩ := Option.filter_eq_some_iff.1 h
  have hpost : verb = .post := by simpa [Route.verbs] using hm
  subst hpost
  unfold Route.Verb.ofMethod? at hv
  split at hv
  · cases hv
  · cases hv
  · rfl
  · cases hv
  · cases hv

/-- Requests that exchange a password for tokens. -/
def Exchanges (req : Request) : Prop :=
  Route.ofSegments (Url.Target.ofText req.target).segments = some .token ∧ req.method = "POST"

theorem dispatch_exchanges (settings : Settings) {req : Request} (h : Exchanges req) (d : Draws) :
    dispatch settings req d = token req d := by
  simp only [dispatch, h.1, h.2]
  rfl

include hok in
/-- What answers a request is made of operations; a password is checked only to exchange it. -/
theorem composed_dispatch (settings : Settings) (req : Request) (d : Draws)
    (hx : Exchanges req → ∀ o, ok o) : Composed d ok (dispatch settings req d) := by
  unfold dispatch
  dsimp only
  split
  · exact .gate hok fun _ => .reply _
  rename_i route hroute
  split
  · exact .reply _
  · exact .gate hok fun _ => .reply _
  · rename_i hverb _
    refine composed_unguarded hok settings req d route fun ht => ?_
    subst ht
    exact hx ⟨hroute, verb?_token hverb⟩
  · exact .gate hok fun user => composed_guarded hok req _ user d _ _

/-- Answers that are the same, with services that are alike. -/
def Indistinct (x x' : Reply × Service) : Prop := x.1 = x'.1 ∧ x.2.Alike x'.2

theorem performAt_indistinct {s' : Service} (hs : s.Alike s')
    (hv : ∀ a, next (o.veil a) = next a)
    (hc : o.Agrees s s')
    (hn : ∀ a t t', t.Alike t' → Indistinct (next a t) (next a t')) :
    Indistinct (performAt p o d next s) (performAt p o d next s') := by
  obtain ⟨hseen, ht⟩ := Service.perform_alike hs d hc
  cases hp : s.perform o d with
  | mk r t =>
    cases hp' : s'.perform o d with
    | mk r' t' =>
      rw [hp, hp'] at hseen ht
      obtain ⟨a, a', rfl, rfl, ha⟩ | ⟨e, e', rfl, rfl, he⟩ := seen_cases hseen
      · rw [performAt_ok hp, performAt_ok hp', ← hv a, ha, hv a']
        exact hn a' t t' ht
      · rw [performAt_error hp, performAt_error hp', ← p.refusal_veiled e, he, p.refusal_veiled]
        exact ⟨rfl, ht⟩

theorem Composed.indistinct {h : Handler} (hc : Composed d (fun o => o.credentials? = none) h)
    {s s' : Service} (hs : s.Alike s') : Indistinct (h s) (h s') := by
  induction hc generalizing s s' with
  | reply r => exact ⟨rfl, hs⟩
  | metrics => exact ⟨by rw [Server.metrics, Server.metrics, hs.counters], hs⟩
  | performAt p ho hv _ ih =>
    refine performAt_indistinct hs hv (fun email password hc => ?_) fun a t t' ht => ih a ht
    rw [ho] at hc
    cases hc

/-- The verdict on the credentials that a request submits. -/
def verdict? (req : Request) (s : Service) : Option Bool :=
  match req.form TokenForm with
  | .ok f => s.store.tables.verdict s.policy.passwords f.email ⟨f.password⟩
  | .error _ => none

theorem token_indistinct (req : Request) (d : Draws) {s s' : Service} (hs : s.Alike s')
    (hv : verdict? req s = verdict? req s') : Indistinct (token req d s) (token req d s') := by
  unfold token withForm
  unfold verdict? at hv
  cases hf : req.form TokenForm with
  | error p => exact ⟨rfl, hs⟩
  | ok f =>
    rw [hf] at hv
    dsimp only at hv ⊢
    have hc (o : Operation) (ho : o.credentials? = some (f.email, ⟨f.password⟩)) :
        o.Agrees s s' := by
      intro email password h
      cases ho.symm.trans h
      exact hv
    cases f.kind with
    | none | some kind =>
      dsimp only
      rw [perform_eq]
      exact performAt_indistinct hs (fun _ => rfl) (hc _ rfl) fun _ _ _ ht => ⟨rfl, ht⟩

theorem dispatch_indistinct (settings : Settings) (req : Request) (d : Draws) {s s' : Service}
    (hs : s.Alike s') (hv : Exchanges req → verdict? req s = verdict? req s') :
    Indistinct (dispatch settings req d s) (dispatch settings req d s') := by
  by_cases hx : Exchanges req
  · rw [dispatch_exchanges settings hx]
    exact token_indistinct req d hs (hv hx)
  · exact (composed_dispatch (fun _ h => h) settings req d fun h => absurd h hx).indistinct hs

/-- The answer when the database fails, of which a request for the head gets no content. -/
def failed (req : Request) (p : Place) : Reply :=
  if wantsHead req then p.failure.withoutContent else p.failure

theorem Course.handle_struck {req : Request} (settings : Settings) (fresh : Uuid)
    {stages : List Stage} (hc : Course d (dispatch settings req d) s stages) {stage : Stage}
    (hm : stage ∈ stages) (hs : stage.Struck d) :
    (handle settings req fresh d s).1.reply = failed req stage.place := by
  simp only [handle, hc.struck hm hs, failed]

end Server

open Server

/-- Nothing confidential is shown. Services that differ in password hashes and in the texts of
failures at most answer each request alike and stay alike, if a password that is exchanged for
tokens has the same verdict on both; so they do if the failures of a method differ in their texts.
And a request goes through stages, at any of which a failure of the database is told in the same
way. -/
theorem nothing_confidential_shown (settings : Settings) (req : Request) (fresh : Uuid)
    (d : Draws) :
    (∀ s s' : Service, s.Alike s' → (Exchanges req → verdict? req s = verdict? req s') →
      (handle settings req fresh d s).1 = (handle settings req fresh d s').1 ∧
        (handle settings req fresh d s).2.Alike (handle settings req fresh d s').2) ∧
    (∀ (s : Service) (m : Method) (text text' : String),
      (handle settings req fresh d (s.failing m (.database text))).1 =
        (handle settings req fresh d (s.failing m (.database text'))).1) ∧
    ∀ s : Service, (∃ stages, Course d (dispatch settings req d) s stages) ∧
      ∀ stages, Course d (dispatch settings req d) s stages →
        ∀ stage ∈ stages, stage.Struck d →
          (handle settings req fresh d s).1.reply = failed req stage.place := by
  have hindistinct {s s' : Service} (hs : s.Alike s')
      (hv : Exchanges req → verdict? req s = verdict? req s') :
      (handle settings req fresh d s).1 = (handle settings req fresh d s').1 ∧
        (handle settings req fresh d s).2.Alike (handle settings req fresh d s').2 := by
    obtain ⟨hr, ht⟩ := dispatch_indistinct settings req d hs hv
    exact ⟨by simp only [handle, hr], ht⟩
  refine ⟨fun s s' => hindistinct, fun s m text text' => ?_, fun s => ⟨?_, ?_⟩⟩
  · exact (hindistinct (s.failing_alike m text text') fun _ => rfl).1
  · exact (composed_dispatch (fun _ _ => trivial) settings req d fun _ _ => trivial).course s
  · exact fun stages hc stage hm hs => hc.handle_struck settings fresh hm hs

namespace Sample

/-- A request of the member about itself. -/
def asking (method : String) : Request :=
  about method [("Authorization", utf8 ("Bearer " ++ apiKey.text))]

theorem asking_presents (method : String) : (asking method).Presents apiKey.text := bearing_presents

/-- The database fails when it is asked for a user. -/
def failing : Service := keyed.failing .findUser (.database "connection lost")

/-- The member comes through the gate, and the failure strikes behind it. -/
theorem asking_struck (method : String) (hm : Route.me.verb? method = some .get) (d : Draws) :
    ∃ stages, Course d (dispatch settings (asking method) d) failing stages ∧
      ∃ stage ∈ stages, stage.place = .handler ∧ stage.Struck d := by
  have hdispatch : dispatch settings (asking method) d =
      gate (asking method) d (behind (asking method) d .me) :=
    dispatch_protected settings (about_route method _) rfl
  have hbehind : behind (asking method) d .me member =
      performAt .handler (.findUser member) d fun u => ok u.toJson := by
    have hverb : Route.me.verb? (asking method).method = some .get := hm
    simp only [behind, hverb]
    exact perform_eq ..
  -- The operation at the gate does not call the method that fails.
  obtain ⟨t, ht, hplan⟩ : ∃ t, failing.perform (.resolveToken apiKey.text) d = (.ok member, t) ∧
      t.plan .findUser = some (.database "connection lost") := by
    refine ⟨(keyed.perform (.resolveToken apiKey.text) d).2.failing .findUser _, ?_, rfl⟩
    rw [failing, Service.perform_failing (by decide), keyed_resolves]
  have hreported := Service.mem_reported (o := .findUser member) (d := d) rfl hplan nofun
  obtain ⟨cause, he⟩ := Service.perform_alert hreported
  rw [hdispatch, gate_eq, Request.bearer?_eq_some.2 (asking_presents method)]
  refine ⟨_, .done .gate ht ?_, ⟨.handler, .findUser member, t⟩,
    List.mem_cons_of_mem _ (List.mem_singleton_self _), rfl, _, hreported⟩
  rw [hbehind]
  exact .refused .handler (Prod.ext he rfl)

/-- The hash of a user is another one. -/
theorem rehashed_alike (s : Service) (id : UserId) (u : User) (hash : String) :
    { s with store.tables.users := Table.empty.insert id u }.Alike
      { s with store.tables.users := Table.empty.insert id { u with passwordHash := hash } } := by
  have hu (a : User) : (Table.empty.insert id a).mapRows User.veiled =
      Table.empty.insert id a.veiled := (Table.insert_mapRows User.veiled Table.empty ..).symm
  simp only [Service.Alike, Service.veiled, Store.veiled, Tables.veiled, hu, User.veiled]

/-- The member has another password. -/
def rehashed : Service :=
  { keyed with
    store.tables.users := Table.empty.insert member { account with passwordHash := "" } }

end Sample

open Sample in
/-- Two hashes of one member, and a failure of the database behind the gate. -/
theorem nothing_confidential_shown_sample :
    (keyed.Alike rehashed ∧
      (handle settings bearing (uuid 0) (draws 6) keyed).1 =
        (handle settings bearing (uuid 0) (draws 6) rehashed).1) ∧
      (handle settings bearing (uuid 0) (draws 6) failing).1.reply =
        .json 500 (.object [("error", .string "Internal server error")]) := by
  obtain ⟨halike, -, hstages⟩ := nothing_confidential_shown settings bearing (uuid 0) (draws 6)
  have hrehashed : keyed.Alike rehashed := rehashed_alike keyed member account ""
  refine ⟨⟨hrehashed, (halike _ _ hrehashed ?_).1⟩, ?_⟩
  · rintro ⟨-, hpost⟩
    exact absurd hpost (by decide)
  · obtain ⟨stages, hc, stage, hm, hplace, hs⟩ := asking_struck "GET" rfl (draws 6)
    have hhead : wantsHead bearing = false := (wantsHead_eq (about_route "GET" _)).trans rfl
    rw [(hstages failing).2 stages hc stage hm hs, hplace, failed, hhead]
    rfl

open Sample in
/-- A request for the head alone gets the status of the failure without the content. -/
theorem failure_without_content :
    (∃ stages, Course (draws 6) (dispatch settings (asking "HEAD") (draws 6)) failing stages ∧
      ∃ stage ∈ stages, stage.place = .handler ∧ stage.Struck (draws 6)) ∧
      (handle settings (asking "HEAD") (uuid 0) (draws 6) failing).1.reply = .empty 500 ∧
      Reply.empty 500 ≠ .json 500 (.object [("error", .string "Internal server error")]) := by
  have hstages := asking_struck "HEAD" rfl (draws 6)
  refine ⟨hstages, ?_, fun h => nomatch congrArg Reply.content h⟩
  obtain ⟨stages, hc, stage, hm, hplace, hs⟩ := hstages
  have hhead : wantsHead (asking "HEAD") = true :=
    (wantsHead_eq (about_route "HEAD" _)).trans rfl
  rw [hc.handle_struck settings (uuid 0) hm hs, hplace, failed, hhead]
  rfl

end GroupAccess
