import GroupAccess.Proofs.Program.Redemption
import GroupAccess.Proofs.Service.Alike
import GroupAccess.Proofs.Service.Idle

namespace GroupAccess

/-- The address and the password that an operation checks. -/
def Operation.credentials? : Operation → Option (String × Password)
  | issueToken email password _ => some (email, password)
  | login email password => some (email, password)
  | _ => none

/-- What is seen of the result of an operation. -/
def Operation.veil : (o : Operation) → o.Result → o.Result
  | register _ _ => User.veiled
  | findUser _ => User.veiled
  | _ => id

theorem User.id_of_veiled {u u' : User} (h : u.veiled = u'.veiled) : u.id = u'.id := by
  have hid := congrArg User.id h
  exact hid

/-- What the store holds against a password: nothing where there is no such user. -/
def Tables.verdict (t : Tables) (policy : PasswordPolicy) (email : String) (password : Password) :
    Option Bool :=
  (t.findUserByEmail (Email.normalize email)).map fun u =>
    password.verify u.passwordHash policy.serverSecret

namespace Refusal

theorem label_veiled (e : Refusal) : e.veiled.label = e.label := by
  cases e <;> rfl

theorem asOutsider_veiled (e : Refusal) :
    (Invites.asOutsider e).veiled = Invites.asOutsider e.veiled := by
  cases e <;> rfl

end Refusal

open Program

namespace Program.Similar

variable {α : Type} {v : α → α}

theorem require (e : Refusal) {a a' : Option α} (h : a.map v = a'.map v) :
    Similar v (Program.require e a) (Program.require e a') := by
  cases a with
  | none =>
    cases a' with
    | none => exact .done rfl
    | some a' => cases h
  | some a =>
    cases a' with
    | none => cases h
    | some a' => exact .done (seen_ok (Option.some.inj h))

/-- A failure that an operation does not expect is internal, so it is not seen which it was. -/
theorem asking (c : Call) : Similar c.veil (Program.ask c) (Program.ask c) := .ask c fun _ => rfl

/-- Where nothing of the value is hidden, both runs go on with the same value. -/
theorem bind_same {β : Type} {w : β → β} {p p' : Program α} {f f' : α → Program β}
    (hp : Similar id p p') (hf : ∀ a, Similar w (f a) (f' a)) :
    Similar w (p.bind f) (p'.bind f') := by
  refine hp.bind fun a a' ha => ?_
  cases ha
  exact hf a

theorem countingRefusal {p p' : Program α} {event : Refusal → Event} (hp : Similar v p p')
    (he : ∀ e, event e.veiled = event e) :
    Similar v (p.countingRefusal event) (p'.countingRefusal event) := by
  refine hp.catching fun e e' h => ?_
  rw [← he e, ← he e', h]
  exact .count _ (.refused h)

end Program.Similar

theorem issueSigned_similar (policy : TokenPolicy) (now : Instant) (user : UserId)
    (audience : Audience) (lifetime : Span) (serial : Uuid) :
    Similar id (Tokens.issueSigned policy now user audience lifetime serial)
      (Tokens.issueSigned policy now user audience lifetime serial) :=
  .bind_same (.done rfl) fun _ => .bind_same (.count _ (.done rfl)) fun _ => .done rfl

theorem issuePair_similar (policy : TokenPolicy) (now : Instant) (user : UserId)
    (first second : Uuid) :
    Similar id (Tokens.issuePair policy now user first second)
      (Tokens.issuePair policy now user first second) :=
  .bind_same (issueSigned_similar ..) fun _ => .bind_same (issueSigned_similar ..) fun _ =>
    .done rfl

theorem issueSecret_similar (now : Instant) (user : UserId) (lifetime : Option Span)
    (token : TokenId) (secret : Secret) :
    Similar id (Tokens.issueSecret now user lifetime token secret)
      (Tokens.issueSecret now user lifetime token secret) := by
  refine .bind_same (.done rfl) fun expiry => ?_
  refine .bind_same (.ask (.createToken _) fun _ => rfl) fun _ => ?_
  exact .bind_same (.count _ (.done rfl)) fun _ => .done rfl

theorem whileRegistered_similar (user : UserId) :
    Similar id (Tokens.whileRegistered user) (Tokens.whileRegistered user) :=
  .bind_same (.asking (.userExists user)) fun _ => .ite (.done rfl) (.done rfl)

theorem resolve_similar (policy : TokenPolicy) (now : Instant) (text : String) :
    Similar id (Tokens.resolve policy now text) (Tokens.resolve policy now text) := by
  refine .bind_same (.require _ rfl) fun presented => ?_
  cases presented with
  | signed header claims signature =>
    exact .bind_same (.require _ rfl) fun user => whileRegistered_similar user
  | secret s =>
    refine .bind_same (.bind_same (.asking (.findToken _)) fun record => ?_)
      whileRegistered_similar
    exact .bind_same (.require _ rfl) fun record => .ite (.done rfl) (.done rfl)

theorem refresh_similar (policy : TokenPolicy) (now : Instant) (text : String) (serial : Uuid) :
    Similar id (Tokens.refresh policy now text serial) (Tokens.refresh policy now text serial) := by
  refine .bind_same (.require _ rfl) fun presented => ?_
  cases presented with
  | signed header claims signature =>
    refine .bind_same (.require _ rfl) fun user => ?_
    exact .bind_same (whileRegistered_similar user) fun user => issueSigned_similar ..
  | secret s => exact .done rfl

theorem resolveRole_similar (user : UserId) (group : GroupId) :
    Similar id (Groups.resolveRole user group) (Groups.resolveRole user group) := by
  refine .bind_same (.asking (.findMembership user group)) fun m => ?_
  refine .bind_same (.require _ rfl) fun m => ?_
  refine .bind_same (.asking (.findRole _)) fun r => ?_
  exact .bind_same (.require _ rfl) fun r => .done rfl

theorem createInvite_similar (actor : UserId) (group : GroupId) (role : Role) (uses : Int)
    (invite : InviteId) (fresh : RoleId) :
    Similar id (Invites.create actor group role uses invite fresh)
      (Invites.create actor group role uses invite fresh) := by
  rw [Invites.create_eq]
  refine .ite (.done rfl) (.bind_same (.asking (.findGroup group)) fun found => ?_)
  refine .ite (.done rfl) (.bind_same ?_ fun own => ?_)
  · refine (resolveRole_similar actor group).catching fun e e' h => .refused ?_
    rw [Refusal.asOutsider_veiled, Refusal.asOutsider_veiled, h]
  refine .ite (.ite ?_ (.done rfl)) (.done rfl)
  refine .bind_same (.asking (.createRole role fresh)) fun roleId => ?_
  exact .bind_same (.asking (.createInvite _)) fun _ => .done rfl

theorem redeem_similar (invite : InviteId) (user : UserId) :
    Similar id (Invites.redeem invite user) (Invites.redeem invite user) := by
  refine .bind_same (.countingRefusal ?_ fun e => by rw [Refusal.label_veiled]) fun m =>
    .bind_same (.count _ (.done rfl)) fun _ => .done rfl
  refine .bind_same (.asking .begin) fun _ => ?_
  refine .bind_same (.catching ?_ fun e e' h => .call .rollback fun _ _ _ => .refused h) fun m =>
    .bind_same (.ask .commit fun _ => rfl) fun _ => .done rfl
  refine .bind_same (.ask (.decrement invite) fun e => by cases e <;> rfl) fun grant => ?_
  exact .bind_same (.ask (.insertMembership _) fun e => by cases e <;> rfl) fun _ => .done rfl

/-- But for those that check a password, operations make no use of what is confidential. -/
theorem program_similar (policy : Policy) (now : Instant) (d : Draws) {o : Operation}
    (ho : o.credentials? = none) :
    Similar o.veil (o.program policy now d) (o.program policy now d) := by
  cases o with
  | register email password =>
    rw [Operation.program, Accounts.register_eq]
    refine .ite (.bind (.asking (.findUserByEmail _)) fun found found' hfound => ?_) (.done rfl)
    have hsome : found.isSome = found'.isSome := by
      simpa only [Call.veil, Option.isSome_map] using congrArg Option.isSome hfound
    rw [hsome]
    refine .ite (.done rfl) (.bind_same (.done rfl) fun _ => .bind_same (.done rfl) fun hash => ?_)
    exact .bind_same (.ask (.createUser _) fun e => by cases e <;> rfl) fun _ => .done rfl
  | issueToken | login => cases ho
  | refresh token =>
    exact (refresh_similar ..).countingRefusal fun e => by rw [Refusal.label_veiled]
  | resolveToken token =>
    exact (resolve_similar ..).countingRefusal fun e => by rw [Refusal.label_veiled]
  | issueApiKey user => exact issueSecret_similar ..
  | findUser user =>
    exact .bind (.asking (.findUser user)) fun found found' h => .require _ h
  | createGroup owner name description =>
    rw [Operation.program, Groups.create_eq]
    refine .ite (.done rfl) (.bind_same (.asking (.createRole .full d.role)) fun role => ?_)
    exact .bind_same (.ask (.createGroup ..) fun e => by cases e <;> rfl) fun _ => .done rfl
  | findGroup group =>
    exact .bind_same (.asking (.findGroup group)) fun found => .require _ rfl
  | resolveRole user group => exact resolveRole_similar ..
  | createInvite actor group role uses => exact createInvite_similar ..
  | redeem invite user => exact redeem_similar ..
  | deleteUser user => exact .asking (.deleteUser user)
  | purgeTokens => exact .asking (.purgeTokens now)
  | createRole role => exact .asking (.createRole role d.role)
  | findRoleId role => exact .asking (.findRoleId role)
  | inviteUsable invite group => exact .asking (.inviteUsable invite group)
  | health => exact .asking .health

namespace Accounts

/-- What an account that was looked for comes to. -/
def checked (policy : PasswordPolicy) (password : Password) : Option User → Program User
  | some user =>
    if password.verify user.passwordHash policy.serverSecret then .done (.ok user) else rejected
  | none => rejected

theorem authenticate_eq (policy : PasswordPolicy) (email : String) (password : Password) :
    authenticate policy email password =
      (Program.ask (.findUserByEmail (Email.normalize email))).bind (checked policy password) := by
  simp only [authenticate, bind_eq]
  refine congrArg (Program.bind _) (funext fun found => ?_)
  cases found <;> rfl

theorem rejected_similar : Similar User.veiled rejected rejected := .count _ (.refused rfl)

theorem checked_similar (policy : PasswordPolicy) (password : Password) {found found' : Option User}
    (hseen : found.map User.veiled = found'.map User.veiled)
    (hv : found.map (fun u => password.verify u.passwordHash policy.serverSecret) =
      found'.map fun u => password.verify u.passwordHash policy.serverSecret) :
    Similar User.veiled (checked policy password found) (checked policy password found') := by
  cases found with
  | none =>
    cases found' with
    | none => exact rejected_similar
    | some u' => cases hseen
  | some u =>
    cases found' with
    | none => cases hseen
    | some u' =>
      have hv : password.verify u.passwordHash policy.serverSecret =
        password.verify u'.passwordHash policy.serverSecret := Option.some.inj hv
      rw [checked, checked, hv]
      exact .ite (.done (seen_ok (Option.some.inj hseen))) rejected_similar

end Accounts

/-- A password that the operation checks has the same verdict on both services. -/
def Operation.Agrees (o : Operation) (s s' : Service) : Prop :=
  ∀ email password, o.credentials? = some (email, password) →
    s.store.tables.verdict s.policy.passwords email password =
      s'.store.tables.verdict s'.policy.passwords email password

namespace Service

variable {α : Type} {v : α → α} {s s' : Service} {k : Agent}

theorem call_findUserByEmail {email : String} {found : Option User} {t : Service}
    (h : s.call k (.findUserByEmail email) = some (.ok found, t)) :
    found = s.store.tables.findUserByEmail email := by
  cases hp : s.plan .findUserByEmail with
  | some e =>
    rw [call_planned hp] at h
    cases h
  | none =>
    rw [call_unplanned hp] at h
    obtain ⟨x, hx, hxt⟩ := Option.map_eq_some_iff.1 h
    rw [Store.call, Store.read, Store.atomic] at hx
    split at hx
    · cases hx
    · cases hx
      cases hxt
      rfl

theorem timedOut_veiled (s : Service) (name : String) : (s.timedOut name).veiled = .internal "" :=
  rfl

theorem seen_getD {x x' : Option (Except Refusal α)} {e e' : Refusal}
    (h : x.map (seen v Refusal.veiled) = x'.map (seen v Refusal.veiled))
    (he : e.veiled = e'.veiled) :
    seen v Refusal.veiled (x.getD (.error e)) = seen v Refusal.veiled (x'.getD (.error e')) := by
  cases x with
  | none =>
    cases x' with
    | none => exact seen_error he
    | some r' => cases h
  | some r =>
    cases x' with
    | none => cases h
    | some r' => exact Option.some.inj h

/-- Whosever password is checked, the verdict decides how it goes on. -/
theorem matches_authenticate (h : s.Alike s') (policy : PasswordPolicy) (email : String)
    (password : Password) (hv : s.store.tables.verdict policy email password =
      s'.store.tables.verdict policy email password)
    {f : User → Program α} (hf : ∀ u u', u.veiled = u'.veiled → Similar v (f u) (f u')) :
    Matches v (run k ((Accounts.authenticate policy email password).bind f) s)
      (run k ((Accounts.authenticate policy email password).bind f) s') := by
  rw [Accounts.authenticate_eq]
  refine matches_call h fun r t r' t' hr hr' hseen ht => run_similar ?_ ht
  obtain ⟨found, found', rfl, rfl, hfound⟩ | ⟨e, e', rfl, rfl, he⟩ := seen_cases hseen
  · rw [Tables.verdict, Tables.verdict, ← call_findUserByEmail hr, ← call_findUserByEmail hr'] at hv
    exact (Accounts.checked_similar policy password hfound hv).bind hf
  · exact .refused rfl

/-- The runs of an operation match, if its password has the same verdict. -/
theorem matches_program (h : s.Alike s') {o : Operation} (d : Draws) (hv : o.Agrees s s') :
    Matches o.veil (run k (o.program s.policy s.clock d) s)
      (run k (o.program s'.policy s'.clock d) s') := by
  unfold Operation.Agrees at hv
  rw [← h.policy] at hv
  rw [← h.policy, ← h.clock]
  cases o with
  | issueToken email password kind =>
    cases hk : TokenKind.ofText? kind with
    | none =>
      simp only [Operation.program, Accounts.issueToken, hk]
      exact run_similar (.refused rfl) h
    | some known =>
      rw [Operation.program, Accounts.issueToken_eq hk]
      refine matches_authenticate h _ _ _ (hv _ _ rfl) fun u u' hu => ?_
      rw [User.id_of_veiled hu]
      cases known with
      | signed => exact issueSigned_similar ..
      | secret => exact issueSecret_similar ..
  | login email password =>
    refine matches_authenticate h _ _ _ (hv _ _ rfl) fun u u' hu => ?_
    rw [User.id_of_veiled hu]
    exact issuePair_similar ..
  | _ => exact run_similar (program_similar _ _ _ rfl) h

/-- An operation gives nothing away of what is confidential, but the verdict on a password. -/
theorem perform_alike (h : s.Alike s') {o : Operation} (d : Draws) (hv : o.Agrees s s') :
    seen o.veil Refusal.veiled (s.perform o d).1 = seen o.veil Refusal.veiled (s'.perform o d).1 ∧
      (s.perform o d).2.Alike (s'.perform o d).2 := by
  obtain ⟨hr, ht⟩ := matches_program (k := worker) h d hv
  rw [perform_run, perform_run]
  exact ⟨seen_getD hr ((timedOut_veiled ..).trans (timedOut_veiled ..).symm), ht.count _⟩

end Service

end GroupAccess
