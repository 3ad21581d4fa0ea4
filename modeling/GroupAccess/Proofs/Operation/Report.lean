import GroupAccess.Proofs.Operation.Effect
import GroupAccess.Proofs.Program.Events
import GroupAccess.Proofs.Program.Redemption

namespace GroupAccess

open Program

/-- Store failures are told apart from lifetimes that are out of range. -/
theorem StoreFailure.head?_message (f : StoreFailure) : f.message.toList.head? ≠ some 't' := by
  cases f with
  | notFound => decide
  | exhausted => decide
  | conflict constraint =>
    change s!"Unique constraint violated: {constraint}".toList.head? ≠ _
    simp [toString]
  | database text =>
    change s!"Database error: {text}".toList.head? ≠ _
    simp [toString]

namespace Tokens

/-- What is counted for a token. -/
def issueEvents : Except Refusal IssuedToken → List Event
  | .ok token => [.tokenIssued token.kind]
  | .error _ => []

/-- How the issue of a token ends, and what it counts. -/
inductive Issued : Except Refusal IssuedToken → List Event → Prop
  | issued (token : IssuedToken) : Issued (.ok token) [.tokenIssued token.kind]
  | failed (text : String) : Issued (.error (.internal text)) []

theorem Issued.events {r : Except Refusal IssuedToken} {es : List Event} (h : Issued r es) :
    es = issueEvents r := by
  cases h <;> rfl

/-- The tokens that were made for a pair which is refused with `e`: the access token, if it is the
refresh token that has no expiry. -/
def halved (policy : TokenPolicy) (now : Instant) (e : Refusal) : List TokenKind :=
  match expiryAfter now policy.accessLifetime, expiryAfter now policy.refreshLifetime with
  | .ok _, .error overdue => if e = overdue then [.signed] else []
  | _, _ => []

end Tokens

namespace Operation

/-- The kinds of the tokens that are handed out. -/
def given : (o : Operation) → Except Refusal o.Result → List TokenKind
  | issueToken _ _ _, .ok token => [token.kind]
  | login _ _, .ok _ => [.signed, .signed]
  | refresh _, .ok token => [token.kind]
  | issueApiKey _, .ok token => [token.kind]
  | _, _ => []

/-- The kinds of the tokens that are counted and not handed out. -/
def surplus (policy : TokenPolicy) (now : Instant) :
    (o : Operation) → Except Refusal o.Result → List TokenKind
  | login _ _, .error e => Tokens.halved policy now e
  | _, _ => []

/-- The outcome of a redemption. -/
def redemptions : (o : Operation) → Except Refusal o.Result → List String
  | redeem _ _, .ok _ => ["ok"]
  | redeem _ _, .error e => [e.label]
  | _, _ => []

/-- The reason why credentials or a token are rejected. -/
def rejections : (o : Operation) → Except Refusal o.Result → List String
  | issueToken _ _ _, .error .badCredentials => [Refusal.badCredentials.label]
  | login _ _, .error .badCredentials => [Refusal.badCredentials.label]
  | refresh _, .error e => [e.label]
  | resolveToken _, .error e => [e.label]
  | _, _ => []

/-- All that an operation counts before it ends with a result. -/
def report (policy : TokenPolicy) (now : Instant) (o : Operation) (r : Except Refusal o.Result) :
    List Event :=
  (o.given r ++ o.surplus policy now r).map .tokenIssued ++ (o.redemptions r).map .redemption ++
    (o.rejections r).map .authFailure

end Operation

namespace Accounts

/-- How an authentication ends, and what it counts. -/
inductive Authenticated : Except Refusal User → List Event → Prop
  | known (user : User) : Authenticated (.ok user) []
  | rejected : Authenticated (.error .badCredentials) [.authFailure Refusal.badCredentials.label]
  | failed (f : StoreFailure) : Authenticated (.error (.ofStore f)) []

theorem authenticate_tells (policy : PasswordPolicy) (email : String) (password : Password) :
    Tells Authenticated (authenticate policy email password) := by
  refine .call fun r => ?_
  cases r with
  | error f => exact .done (.failed f)
  | ok found =>
    cases found with
    | none => exact .count (.done .rejected)
    | some user => exact .ite (.done (.known user)) (.count (.done .rejected))

theorem register_silent (policy : PasswordPolicy) (now : Instant) (email : String)
    (password : Password) (id : UserId) (salt : Password.Salt) :
    Silent (register policy now email password id salt) := by
  rw [register_eq]
  refine .ite (Silent.bind (.ask _ _) fun found => ?_) (.done rfl)
  refine .ite (.done rfl) (Silent.bind (.done rfl) fun _ => ?_)
  exact Silent.bind (.done rfl) fun hash => Silent.bind (.ask _ _) fun _ => .done rfl

end Accounts

namespace Tokens

theorem issueSigned_eq (policy : TokenPolicy) (now : Instant) (user : UserId)
    (audience : Audience) (lifetime : Span) (serial : Uuid) :
    issueSigned policy now user audience lifetime serial =
      match signed policy now user audience lifetime serial with
      | .ok token => .count (.tokenIssued .signed) (.done (.ok token))
      | .error e => .done (.error e) := by
  simp only [issueSigned, signed, bind_eq]
  cases expiryAfter now lifetime <;> rfl

theorem issueSigned_tells (policy : TokenPolicy) (now : Instant) (user : UserId)
    (audience : Audience) (lifetime : Span) (serial : Uuid) :
    Tells Issued (issueSigned policy now user audience lifetime serial) := by
  rw [issueSigned_eq, signed, expiryAfter]
  cases now.add? lifetime with
  | none => exact .done (.failed _)
  | some expiry => exact .count (.done (.issued _))

/-- A secret is counted after it is stored. -/
theorem issueSecret_tells (now : Instant) (user : UserId) (lifetime : Option Span) (id : TokenId)
    (secret : Secret) : Tells Issued (issueSecret now user lifetime id secret) := by
  have hstored {r : Except Refusal (Option Instant)} (hr : r = lifetime.mapM (expiryAfter now))
      (hfails : ∀ e, r = .error e → ∃ text, e = .internal text) :
      Tells Issued (issueSecret now user lifetime id secret) := by
    simp only [issueSecret, ← hr, bind_eq]
    cases r with
    | error e =>
      obtain ⟨text, rfl⟩ := hfails e rfl
      exact .done (.failed text)
    | ok expiry =>
      refine .call fun r => ?_
      cases r with
      | error f => exact .done (.failed _)
      | ok _ => exact .count (.done (.issued _))
  refine hstored rfl fun e he => ?_
  cases lifetime with
  | none => cases he
  | some l =>
    rw [Option.mapM_some, expiryAfter] at he
    cases hadd : now.add? l with
    | none =>
      rw [hadd] at he
      cases he
      exact ⟨_, rfl⟩
    | some expiry =>
      rw [hadd] at he
      cases he

/-- How the issue of a pair ends, and what it counts. -/
inductive Paired (policy : TokenPolicy) (now : Instant) :
    Except Refusal TokenPair → List Event → Prop
  | issued (pair : TokenPair) :
      Paired policy now (.ok pair) [.tokenIssued .signed, .tokenIssued .signed]
  | failed (text : String) : Paired policy now (.error (.internal text))
      ((halved policy now (.internal text)).map .tokenIssued)

theorem expiryAfter_eq_error {now : Instant} {lifetime : Span} {e : Refusal}
    (h : expiryAfter now lifetime = .error e) :
    e = .internal s!"token lifetime {lifetime.text} out of range" := by
  unfold expiryAfter at h
  split at h
  · cases h
  · exact (Except.error.inj h).symm

theorem halved_of_no_access {policy : TokenPolicy} {now : Instant} {e : Refusal}
    (ha : expiryAfter now policy.accessLifetime = .error e) (e' : Refusal) :
    halved policy now e' = [] := by
  rw [halved, ha]

theorem halved_of_no_refresh {policy : TokenPolicy} {now expiry : Instant} {e : Refusal}
    (ha : expiryAfter now policy.accessLifetime = .ok expiry)
    (hr : expiryAfter now policy.refreshLifetime = .error e) :
    halved policy now e = [.signed] := by
  rw [halved, ha, hr]
  exact if_pos rfl

/-- The access token of a pair is counted before the refresh token is made. -/
theorem issuePair_tells (policy : TokenPolicy) (now : Instant) (user : UserId)
    (first second : Uuid) :
    Tells (Paired policy now) (issuePair policy now user first second) := by
  simp only [issuePair, issueSigned_eq, signed, bind_eq]
  cases haccess : expiryAfter now policy.accessLifetime with
  | error e =>
    obtain rfl := expiryAfter_eq_error haccess
    have hfailed : Paired policy now _ _ := 
        .failed s!"token lifetime {policy.accessLifetime.text} out of range"
    rw [halved_of_no_access haccess] at hfailed
    exact .done hfailed
  | ok expiry =>
    cases hrefresh : expiryAfter now policy.refreshLifetime with
    | error e =>
      obtain rfl := expiryAfter_eq_error hrefresh
      have hfailed : Paired policy now _ _ :=
        .failed s!"token lifetime {policy.refreshLifetime.text} out of range"
      rw [halved_of_no_refresh haccess hrefresh] at hfailed
      exact .count (.done hfailed)
    | ok expiry' => exact .count (.count (.done (.issued _)))

theorem whileRegistered_silent (user : UserId) : Silent (whileRegistered user) :=
  Silent.bind (.ask _ _) fun _ => .ite (.done rfl) (.done rfl)

theorem refresh_tells (policy : TokenPolicy) (now : Instant) (text : String) (serial : Uuid) :
    Tells (fun r es => es = issueEvents r) (refresh policy now text serial) := by
  refine .after (.require _ _) (fun presented => ?_) fun _ => rfl
  cases presented with
  | secret s => exact .done rfl
  | signed header claims signature =>
    refine .after (.require _ _) (fun user => ?_) fun _ => rfl
    refine .after (whileRegistered_silent user) (fun user => ?_) fun _ => rfl
    exact (issueSigned_tells policy now user .access policy.accessLifetime serial).mono
      fun r es h => h.events

theorem resolve_silent (policy : TokenPolicy) (now : Instant) (text : String) :
    Silent (resolve policy now text) := by
  refine Silent.bind (.require _ _) fun presented => ?_
  cases presented with
  | signed header claims signature =>
    exact Silent.bind (.require _ _) fun user => whileRegistered_silent user
  | secret s =>
    refine Silent.bind ?_ fun user => whileRegistered_silent user
    refine Silent.bind (.ask _ _) fun record => Silent.bind (.require _ _) fun r => ?_
    exact .ite (.done rfl) (.done rfl)

/-- A lifetime that leads to no instant is not refused like a call that fails. -/
theorem expiryAfter_ne_ofStore {now : Instant} {lifetime : Span} {e : Refusal}
    (h : expiryAfter now lifetime = .error e) (f : StoreFailure) : e ≠ .ofStore f := by
  have hlate : s!"token lifetime {lifetime.text} out of range".toList.head? = some 't' := by
    simp [toString]
  intro hf
  rw [Refusal.internal.inj ((expiryAfter_eq_error h).symm.trans hf)] at hlate
  exact f.head?_message hlate

theorem halved_ofStore (policy : TokenPolicy) (now : Instant) (f : StoreFailure) :
    halved policy now (.ofStore f) = [] := by
  unfold halved
  split
  · rename_i hlate
    exact if_neg (expiryAfter_ne_ofStore hlate f).symm
  · rfl

theorem halved_badCredentials (policy : TokenPolicy) (now : Instant) :
    halved policy now .badCredentials = [] := by
  unfold halved
  split
  · rename_i hlate
    refine if_neg fun he => ?_
    cases he.trans (expiryAfter_eq_error hlate)
  · rfl

end Tokens

namespace Groups

theorem resolveRole_silent (user : UserId) (group : GroupId) : Silent (resolveRole user group) := by
  refine Silent.bind (.ask _ _) fun m => Silent.bind (.require _ _) fun m => ?_
  exact Silent.bind (.ask _ _) fun r => Silent.bind (.require _ _) fun r => .done rfl

theorem create_silent (now : Instant) (owner : UserId) (name : String)
    (description : Option String) (id : GroupId) (fresh : RoleId) :
    Silent (create now owner name description id fresh) := by
  rw [create_eq]
  refine .ite (.done rfl) (Silent.bind (.ask _ _) fun role => ?_)
  exact Silent.bind (.ask _ _) fun _ => .done rfl

end Groups

namespace Invites

theorem create_silent (actor : UserId) (group : GroupId) (role : Role) (uses : Int)
    (id : InviteId) (fresh : RoleId) : Silent (create actor group role uses id fresh) := by
  rw [create_eq]
  refine .ite (.done rfl) (Silent.bind (.ask _ _) fun found => ?_)
  refine .ite (.done rfl) (Silent.bind ?_ fun own => ?_)
  · refine .catching (Groups.resolveRole_silent actor group) (fun _ _ h => h) ?_
    rintro e es rfl
    exact .done rfl
  · refine .ite (.ite ?_ (.done rfl)) (.done rfl)
    exact Silent.bind (.ask _ _) fun roleId => Silent.bind (.ask _ _) fun _ => .done rfl

/-- What a redemption counts is its outcome. -/
def redeemEvents : Except Refusal Membership → List Event
  | .ok _ => [.redemption "ok"]
  | .error e => [.redemption e.label]

theorem ended_tells (r : Except Refusal Membership) :
    Tells (fun r es => es = redeemEvents r) (ended r) := by
  cases r with
  | ok m => exact .count (.done rfl)
  | error e => exact .count (.done rfl)

theorem redeem_tells (invite : InviteId) (user : UserId) :
    Tells (fun r es => es = redeemEvents r) (redeem invite user) := by
  have hrefused (e : Refusal) : Tells (fun r es => es = redeemEvents r) (refused e) :=
    .call fun _ => ended_tells (.error e)
  rw [redeem_eq]
  refine .call fun r => ?_
  cases r with
  | error e => exact ended_tells (.error _)
  | ok _ =>
    refine .call fun r => ?_
    cases r with
    | error e => exact hrefused _
    | ok grant =>
      refine .call fun r => ?_
      cases r with
      | error e => exact hrefused _
      | ok _ =>
        refine .call fun r => ?_
        cases r with
        | error e => exact ended_tells _
        | ok _ => exact ended_tells _

end Invites

namespace Operation

variable {policy : TokenPolicy} {now : Instant}

/-- A rejected token is counted after all that led to it. -/
theorem countingAuth_tells {α : Type} (told : Except Refusal α → List Event) {p : Program α}
    (hp : Tells (fun r es => es = told r) p) (h : ∀ e, told (.error e) = []) :
    Tells (fun r es => es = match r with
      | .ok a => told (.ok a)
      | .error e => [.authFailure e.label]) (countingAuth p) := by
  refine .catching hp (fun a es h => h) ?_
  rintro e es rfl
  exact .count (.done (by rw [h]; rfl))

/-- Operations that count nothing. -/
def countsNothing : Operation → Bool
  | issueToken _ _ _ | login _ _ | refresh _ | resolveToken _ | issueApiKey _ | redeem _ _ => false
  | _ => true

theorem report_of_countsNothing {o : Operation} (ho : o.countsNothing = true)
    (r : Except Refusal o.Result) : o.report policy now r = [] := by
  cases o <;> first | (cases r <;> rfl) | cases ho

/-- Whatever the store answers, an operation counts what is reported of its result. -/
theorem program_tells (policy : Policy) (now : Instant) (d : Draws) (o : Operation) :
    Tells (fun r es => es = o.report policy.tokens now r) (o.program policy now d) := by
  have hsilent (ho : o.countsNothing = true) (hp : Silent (o.program policy now d)) :
      Tells (fun r es => es = o.report policy.tokens now r) (o.program policy now d) :=
    hp.mono fun r es hes => hes.trans (report_of_countsNothing ho r).symm
  cases o with
  | register email password =>
    exact hsilent rfl (Accounts.register_silent policy.passwords now email password d.user d.salt)
  | issueToken email password kind =>
    cases hk : TokenKind.ofText? kind with
    | none =>
      simp only [program, Accounts.issueToken, hk]
      exact .done rfl
    | some known =>
      rw [program, Accounts.issueToken_eq hk]
      refine .bind (Accounts.authenticate_tells policy.passwords email password) ?_ ?_
      · rintro user es ⟨⟩
        have hissued {r : Except Refusal IssuedToken} {es : List Event} (h : Tokens.Issued r es) :
            es = (issueToken email password kind).report policy.tokens now r := by
          cases h <;> rfl
        cases known with
        | signed => exact (Tokens.issueSigned_tells ..).mono fun _ _ => hissued
        | secret => exact (Tokens.issueSecret_tells ..).mono fun _ _ => hissued
      · rintro e es (_ | _ | f)
        · rfl
        · rfl
  | login email password =>
    refine .bind (Accounts.authenticate_tells policy.passwords email password) ?_ ?_
    · rintro user es ⟨⟩
      refine (Tokens.issuePair_tells policy.tokens now user.id d.serial d.nextSerial).mono ?_
      rintro r es (pair | text)
      · rfl
      · rw [report]
        simp only [given, surplus, redemptions, rejections, List.nil_append, List.map_nil,
          List.append_nil]
    · rintro e es (_ | _ | f)
      · rw [report]
        simp only [surplus, Tokens.halved_badCredentials]
        rfl
      · rw [report]
        simp only [surplus, Tokens.halved_ofStore]
        rfl
  | refresh token =>
    refine (countingAuth_tells Tokens.issueEvents (Tokens.refresh_tells policy.tokens now token d.serial)
      fun _ => rfl).mono ?_
    rintro r es rfl
    cases r <;> rfl
  | resolveToken token =>
    refine (countingAuth_tells (fun _ => [])
      (Tokens.resolve_silent policy.tokens now token) fun _ => rfl).mono ?_
    rintro r es rfl
    cases r <;> rfl
  | issueApiKey user =>
    refine (Tokens.issueSecret_tells now user none d.token d.secret).mono ?_
    rintro r es (_ | _) <;> rfl
  | redeem invite user =>
    refine (Invites.redeem_tells invite user).mono ?_
    rintro r es rfl
    cases r <;> rfl
  | createGroup owner name description =>
    exact hsilent rfl (Groups.create_silent now owner name description d.group d.role)
  | resolveRole user group => exact hsilent rfl (Groups.resolveRole_silent user group)
  | createInvite actor group role uses =>
    exact hsilent rfl (Invites.create_silent actor group role uses d.invite d.role)
  | findUser user => exact hsilent rfl (Silent.bind (.ask _ _) fun u => .require _ _)
  | findGroup group => exact hsilent rfl (Silent.bind (.ask _ _) fun g => .require _ _)
  | deleteUser user => exact hsilent rfl (.ask (.deleteUser user) _)
  | purgeTokens => exact hsilent rfl (.ask (.purgeTokens now) _)
  | createRole role => exact hsilent rfl (.ask (.createRole role d.role) _)
  | findRoleId role => exact hsilent rfl (.ask (.findRoleId role) _)
  | inviteUsable invite group => exact hsilent rfl (.ask (.inviteUsable invite group) _)
  | health => exact hsilent rfl (.ask .health _)

end Operation

end GroupAccess
