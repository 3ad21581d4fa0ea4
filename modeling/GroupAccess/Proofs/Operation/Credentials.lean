import GroupAccess.Proofs.Password.Stored
import GroupAccess.Proofs.Token.Issue

namespace GroupAccess

namespace Span

theorem nanos_of_ofSeconds?_getD {n : Int} (h : ((ofSeconds? n).getD longest).nanos < 0) :
    ((ofSeconds? n).getD longest).nanos ≤ -1000000000 := by
  have hn : nanosPerSecond = 1000000000 := rfl
  have hl : 0 ≤ longest.nanos := by decide
  unfold ofSeconds? ofNanos? at h ⊢
  simp only [hn] at h ⊢
  by_cases hb : -(9223372036854775807 * 1000000) ≤ n * 1000000000 ∧
      n * 1000000000 ≤ 9223372036854775807 * 1000000
  · simp only [dif_pos hb, Option.getD_some] at h ⊢
    omega
  · simp only [dif_neg hb, Option.getD_none] at h
    omega

end Span

/-- How long the tokens of a kind live when they are given for a password. -/
def TokenPolicy.lifetime (p : TokenPolicy) : TokenKind → Span
  | .signed => p.accessLifetime
  | .secret => p.secretLifetime

theorem Instant.seconds_le_seconds {now expiry : Instant} {lifetime : Span}
    (he : expiry.nanos = now.nanos + lifetime.nanos)
    (hl : lifetime.nanos < 0 → lifetime.nanos ≤ -1000000000) :
    now.seconds ≤ expiry.seconds ↔ 0 ≤ lifetime.nanos := by
  rw [seconds, seconds, fdiv_nanosPerSecond, fdiv_nanosPerSecond, he]
  by_cases hneg : lifetime.nanos < 0
  · have hwhole := hl hneg
    omega
  · omega

namespace Tokens

/-- The issue of a pair, which no tables matter to. -/
def paired (policy : TokenPolicy) (now : Instant) (user : UserId) (first second : Uuid) :
    Except Refusal TokenPair := do
  let access ← signed policy now user .access policy.accessLifetime first
  let refresh ← signed policy now user .refresh policy.refreshLifetime second
  return ⟨access.text, refresh.text, policy.accessLifetime.seconds⟩

theorem paired_ok {policy : TokenPolicy} {now : Instant} {user : UserId} {first second : Uuid}
    {pair : TokenPair} (h : paired policy now user first second = .ok pair) :
    ∃ access refresh, signed policy now user .access policy.accessLifetime first = .ok access ∧
      signed policy now user .refresh policy.refreshLifetime second = .ok refresh ∧
      pair = ⟨access.text, refresh.text, policy.accessLifetime.seconds⟩ := by
  unfold paired at h
  cases ha : signed policy now user .access policy.accessLifetime first with
  | error e =>
    rw [ha] at h
    cases h
  | ok access =>
    cases hr : signed policy now user .refresh policy.refreshLifetime second with
    | error e =>
      rw [ha, hr] at h
      cases h
    | ok refresh =>
      rw [ha, hr] at h
      cases h
      exact ⟨access, refresh, rfl, rfl, rfl⟩

/-- A token is handed out whenever its expiry is an instant. -/
theorem signed_of_add? {policy : TokenPolicy} {now expiry : Instant} {user : UserId}
    {audience : Audience} {lifetime : Span} {serial : Uuid} (h : now.add? lifetime = some expiry) :
    signed policy now user audience lifetime serial =
      .ok ⟨String.ofList (Signed.write policy.key (claims now expiry user audience serial)),
        .signed, some expiry⟩ := by
  rw [signed, expiryAfter, h]
  rfl

end Tokens

namespace Tables

variable (t : Tables)

theorem authenticated_eq_some {t : Tables} {policy : PasswordPolicy} {email : String}
    {password : Password} {user : User} :
    t.authenticated policy email password = some user ↔
      t.findUserByEmail (Email.normalize email) = some user ∧
        password.verify user.passwordHash policy.serverSecret = true :=
  Option.filter_eq_some_iff

theorem authenticated_eq_none {t : Tables} {policy : PasswordPolicy} {email : String}
    {password : Password} :
    t.authenticated policy email password = none ↔
      ∀ user, t.findUserByEmail (Email.normalize email) = some user →
        ¬password.verify user.passwordHash policy.serverSecret = true :=
  Option.filter_eq_none_iff

/-- An account is not opened by a password that does not match. -/
theorem authenticated_mismatch {t : Tables} {policy : PasswordPolicy} {email : String}
    {password : Password} {user : User}
    (hf : t.findUserByEmail (Email.normalize email) = some user)
    (hv : ¬password.verify user.passwordHash policy.serverSecret = true) :
    t.authenticated policy email password = none := by
  refine authenticated_eq_none.2 fun other hfound => ?_
  cases hf.symm.trans hfound
  exact hv

/-- A signed token right after its issue: its bearer is told unless the lifetime is negative. -/
theorem bearer?_signed {policy : TokenPolicy} {now : Instant} {user : UserId} {a b : Audience}
    {lifetime : Span} {serial : Uuid} {token : IssuedToken}
    (h : Tokens.signed policy now user b lifetime serial = .ok token)
    (hl : lifetime.nanos < 0 → lifetime.nanos ≤ -1000000000) (hu : t.users.contains user = true) :
    t.bearer? policy now a token.text =
      if b = a ∧ 0 ≤ lifetime.nanos then some user else none := by
  obtain ⟨expiry, he, rfl⟩ := Tokens.signed_ok h
  rw [bearer?_write, hu]
  refine if_congr ⟨fun hc => ⟨hc.1, ?_⟩, fun hc => ⟨hc.1, rfl, Int.le_refl _, ?_⟩⟩ rfl rfl
  · exact (Instant.seconds_le_seconds he hl).1 hc.2.2.2
  · exact (Instant.seconds_le_seconds he hl).2 hc.2

variable {t} {fails : Bool} {policy : TokenPolicy} {now : Instant} {user : UserId} {d : Draws}
  {kind : TokenKind}

theorem issued_ok (hf : fails = false)
    (hn : kind = .secret → t.tokens.contains d.secret.digest = false)
    (he : (now.add? (policy.lifetime kind)).isSome = true) :
    ∃ token, (t.issued fails policy now user d kind).1 = .ok token := by
  obtain ⟨expiry, he⟩ := Option.isSome_iff_exists.1 he
  cases kind with
  | signed => exact ⟨_, Tokens.signed_of_add? he⟩
  | secret =>
    have hx : Option.mapM (Tokens.expiryAfter now) (some policy.secretLifetime) =
        .ok (some expiry) := by
      have he : now.add? policy.secretLifetime = some expiry := he
      rw [Option.mapM_some, Tokens.expiryAfter, he]
      rfl
    simp only [issued, secretIssued, hx, hf, hn rfl, Bool.false_eq_true, if_false]
    exact ⟨_, rfl⟩

/-- A token that is handed out for a registered user is its own at once. -/
theorem issued_bearer? {token : IssuedToken}
    (h : (t.issued fails policy now user d kind).1 = .ok token)
    (hu : t.users.contains user = true) :
    (t.issued fails policy now user d kind).2.bearer? policy now .access token.text =
      if 0 ≤ (policy.lifetime kind).nanos then some user else none := by
  cases kind with
  | signed =>
    rw [issued, t.bearer?_signed h Span.nanos_of_ofSeconds?_getD hu]
    exact if_congr ⟨And.right, fun hl => ⟨rfl, hl⟩⟩ rfl rfl
  | secret =>
    rcases t.secretIssued_cases fails now user (some policy.secretLifetime) d.token d.secret with
      ⟨e, he⟩ | ⟨expiry, hx, -, he⟩
    · rw [issued, he] at h
      cases h
    · rw [issued, he] at h ⊢
      cases h
      obtain ⟨instant, rfl, hnanos⟩ :=
        Option.map_eq_some_iff.1 (Tokens.mapM_expiryAfter_nanos hx)
      rw [bearer?_secret, Table.get?_insert_self, Option.filter_some]
      have hle : instant < now ↔ policy.secretLifetime.nanos < 0 := by
        have hnanos : instant.nanos = now.nanos + policy.secretLifetime.nanos := hnanos
        change instant.nanos < now.nanos ↔ _
        omega
      simp only [SecretRecord.isExpired, TokenPolicy.lifetime]
      by_cases hl : 0 ≤ policy.secretLifetime.nanos
      · have hlive : ¬instant < now := fun hc => absurd (hle.1 hc) (Int.not_lt.2 hl)
        simp [hlive, hl, hu]
      · have hdead : instant < now := hle.2 (Int.not_le.1 hl)
        simp [hdead, hl]

end Tables

namespace Service

open Program

variable {s : Service} {k : Agent}

theorem run_issuePair (policy : TokenPolicy) (now : Instant) (user : UserId)
    (first second : Uuid) :
    ∃ c, run k (Tokens.issuePair policy now user first second) s =
      (some (Tokens.paired policy now user first second), s.leaving s.tables c) := by
  obtain ⟨c, ha⟩ := s.run_issueSigned (k := k) policy now user .access policy.accessLifetime first
  simp only [Tokens.issuePair, bind_eq, Tokens.paired]
  cases hs : Tokens.signed policy now user .access policy.accessLifetime first with
  | error e =>
    rw [hs] at ha
    exact ⟨c, run_bind_error ha⟩
  | ok access =>
    rw [hs] at ha
    obtain ⟨c', hr⟩ := (s.leaving s.tables c).run_issueSigned (k := k) policy now user .refresh
      policy.refreshLifetime second
    refine ⟨c', (run_bind_ok ha).trans ?_⟩
    cases ht : Tokens.signed policy now user .refresh policy.refreshLifetime second with
    | error e =>
      rw [ht] at hr
      exact run_bind_error hr
    | ok refresh =>
      rw [ht] at hr
      exact run_bind_ok hr

theorem perform_leaving {o : Operation} {d : Draws} {r : Except Refusal o.Result} {t : Tables}
    {c : Counters} (hr : run worker (o.program s.policy s.clock d) s = (some r, s.leaving t c)) :
    ∃ c, s.perform o d = (r, s.leaving t c) :=
  ⟨c.add (.operation o.name), perform_eq hr⟩

/-- A kind that is not known is refused before the credentials are looked at. -/
theorem perform_issueToken_unknown {kind : String} (hk : TokenKind.ofText? kind = none)
    (email : String) (password : Password) (d : Draws) :
    (s.perform (.issueToken email password kind) d).1 = .error (.badTokenKind kind) := by
  have hr : run worker ((Operation.issueToken email password kind).program s.policy s.clock d) s =
      (some (.error (.badTokenKind kind)), s) := by
    simp only [Operation.program, Accounts.issueToken, hk]
    rfl
  rw [perform_eq hr]

namespace Idle

/-- The answer to a login: a pair for the account of the address and the password. -/
theorem perform_login (h : s.Idle) (email : String) (password : Password) (d : Draws) :
    ∃ c, s.perform (.login email password) d =
      ((s.tables.authenticated s.policy.passwords email password).elim (.error .badCredentials)
        fun user => Tokens.paired s.policy.tokens s.clock user.id d.serial d.nextSerial,
        s.leaving s.tables c) := by
  obtain ⟨c, ha⟩ := h.run_authenticate (k := worker) s.policy.passwords email password
  cases hu : s.tables.authenticated s.policy.passwords email password with
  | none =>
    rw [hu] at ha
    exact perform_leaving (o := .login email password) (run_bind_error ha)
  | some user =>
    rw [hu] at ha
    obtain ⟨c', hp⟩ := (s.leaving s.tables c).run_issuePair (k := worker) s.policy.tokens s.clock
      user.id d.serial d.nextSerial
    exact perform_leaving (o := .login email password) ((run_bind_ok ha).trans hp)

/-- The answer to a request for a token of a known kind: one for the account of the address and
the password. -/
theorem perform_issueToken (h : s.Idle) {kind : String} {known : TokenKind}
    (hk : TokenKind.ofText? kind = some known) (email : String) (password : Password) (d : Draws) :
    ∃ c, s.perform (.issueToken email password kind) d =
      match s.tables.authenticated s.policy.passwords email password with
      | some user =>
        let issued := s.tables.issued s.store.failsTokenWrites s.policy.tokens s.clock user.id d
          known
        (issued.1, s.leaving issued.2 c)
      | none => (.error .badCredentials, s.leaving s.tables c) := by
  obtain ⟨c, hr⟩ := h.run_issueToken (k := worker) hk s.policy s.clock email password d
  cases hu : s.tables.authenticated s.policy.passwords email password with
  | none =>
    rw [hu] at hr
    exact perform_leaving hr
  | some user =>
    rw [hu] at hr
    exact perform_leaving hr

/-- The answer to a registration, and what it leaves. -/
theorem perform_register (h : s.Idle) (email : String) (password : Password) (d : Draws) :
    let r := s.tables.registered s.policy.passwords s.clock email password d.user d.salt
    (s.perform (.register email password) d).1 = r.1 ∧
      (s.perform (.register email password) d).2.tables = r.2 := by
  intro r
  have hp : (Operation.register email password).program s.policy s.clock d =
      Accounts.register s.policy.passwords s.clock email password d.user d.salt := rfl
  have hr : run worker ((Operation.register email password).program s.policy s.clock d) s =
      (some r.1, s.put r.2) := by
    rw [hp]
    exact h.run_register ..
  clear_value r
  rw [perform_eq hr]
  exact ⟨rfl, rfl⟩

end Idle

end Service

namespace Sample

def account : User :=
  ⟨member, "a@b.c", String.ofList ((Password.mk "").toStored "server" (draws 1).salt).render, clock⟩

theorem account_hash :
    (Password.mk "").hash "server" 72 (draws 1).salt = .ok account.passwordHash := rfl

theorem account_verify : (Password.mk "").verify account.passwordHash "server" = true :=
  Password.verify_hash (draws 1).salt account_hash

/-- A service with one account. -/
def entered (tokens : TokenPolicy) : Service :=
  (Service.start ⟨tokens, openPolicy.passwords⟩ 5000 clock).after [entry]

theorem entered_idle (tokens : TokenPolicy) : (entered tokens).Idle :=
  (Service.start_idle ..).after [entry]

theorem entry_registered (tokens : TokenPolicy) :
    let r := (Service.start ⟨tokens, openPolicy.passwords⟩ 5000 clock).perform
      (.register "a@b.c" ⟨""⟩) (draws 1)
    r.1 = .ok account ∧ r.2.tables = { users := Table.empty.insert member account } := by
  intro r
  have hn : Email.normalize "a@b.c" = "a@b.c" := by decide +kernel
  have hv : Email.isValid "a@b.c" = true := by decide +kernel
  obtain ⟨hanswer, htables⟩ := (Service.start_idle ⟨tokens, openPolicy.passwords⟩ 5000
    clock).perform_register "a@b.c" ⟨""⟩ (draws 1)
  rw [hanswer, htables]
  simp only [Tables.registered, hn, hv, Service.start, openPolicy, account_hash]
  exact ⟨rfl, rfl⟩

theorem entered_tables (tokens : TokenPolicy) :
    (entered tokens).tables = { users := Table.empty.insert member account } :=
  (entry_registered tokens).2

theorem entered_registered (tokens : TokenPolicy) :
    (entered tokens).tables.users.contains member = true := by
  rw [entered_tables]
  decide

theorem entered_account (tokens : TokenPolicy) :
    (entered tokens).tables.findUserByEmail (Email.normalize "a@b.c") = some account := by
  have hn : Email.normalize "a@b.c" = "a@b.c" := by decide +kernel
  rw [Tables.findUserByEmail, entered_tables, hn]
  rfl

theorem entered_policy (tokens : TokenPolicy) :
    (entered tokens).policy = ⟨tokens, openPolicy.passwords⟩ :=
  (Service.start_idle ..).after_policy [entry]

/-- Nothing but the tables and the counters has changed. -/
theorem entered_leaving (tokens : TokenPolicy) :
    ∃ t c, entered tokens =
      (Service.start ⟨tokens, openPolicy.passwords⟩ 5000 clock).leaving t c := by
  obtain ⟨t, c, hs, -⟩ := (Service.start_idle ⟨tokens, openPolicy.passwords⟩ 5000
    clock).perform_outcome (.register "a@b.c" ⟨""⟩) (draws 1)
  exact ⟨t, c, hs⟩

theorem entered_clock (tokens : TokenPolicy) : (entered tokens).clock = clock := by
  obtain ⟨t, c, hs⟩ := entered_leaving tokens
  rw [hs]
  rfl

theorem entered_writes (tokens : TokenPolicy) :
    (entered tokens).store.failsTokenWrites = false := by
  obtain ⟨t, c, hs⟩ := entered_leaving tokens
  rw [hs]
  rfl

/-- The account logs in, whatever the lifetimes are, if they lead to instants. -/
theorem entered_login {tokens : TokenPolicy} {pair : TokenPair} (d : Draws)
    (h : Tokens.paired tokens clock member d.serial d.nextSerial = .ok pair) :
    ((entered tokens).perform (.login "a@b.c" ⟨""⟩) d).1 = .ok pair := by
  have ha : (entered tokens).tables.authenticated openPolicy.passwords "a@b.c" ⟨""⟩ =
      some account := Tables.authenticated_eq_some.2 ⟨entered_account tokens, account_verify⟩
  obtain ⟨c, hl⟩ := (entered_idle tokens).perform_login "a@b.c" ⟨""⟩ d
  rw [hl, entered_policy, entered_clock, ha]
  exact h

end Sample

end GroupAccess
