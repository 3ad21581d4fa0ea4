import GroupAccess.Config.Settings
import GroupAccess.Proofs.Codec.Except
import GroupAccess.Proofs.Token.Audience

namespace GroupAccess

namespace Instant

/-- The end of time. -/
def last : Instant := ⟨8210266876800 * 1000000000 - 1, by decide⟩

theorem ofNanos?_of_bounded (e : Instant) : ofNanos? e.nanos = some e := dif_pos e.bounded

/-- Past instants are out of reach only beyond the end of time. -/
theorem unreached_iff (now : Instant) {n : Int} (hn : 0 ≤ n) :
    (∀ e : Instant, e.nanos ≠ now.nanos + n) ↔ last.nanos - now.nanos < n := by
  have hlast : last.nanos = 8210266876800 * 1000000000 - 1 := rfl
  have hnow := now.bounded
  constructor
  · intro h
    by_contra hle
    have hb : -8334601228800 * 1000000000 ≤ now.nanos + n ∧
        now.nanos + n < 8210266876800 * 1000000000 := by omega
    exact h ⟨now.nanos + n, hb⟩ rfl
  · intro h e he
    have hbounded := e.bounded
    omega

/-- A number of seconds that is no span is not the distance of two instants. -/
theorem unreached_of_unfit {n : Int} (h : Span.ofSeconds? n = none) (now e : Instant) :
    e.nanos ≠ now.nanos + n * nanosPerSecond := by
  intro he
  have hnow := now.bounded
  have hlater := e.bounded
  have hfits : -(9223372036854775807 * 1000000) ≤ n * nanosPerSecond ∧
      n * nanosPerSecond ≤ 9223372036854775807 * 1000000 := by omega
  unfold Span.ofSeconds? Span.ofNanos? at h
  rw [dif_pos hfits] at h
  cases h

/-- No instant is the longest span after another. -/
theorem unreached_longest (now e : Instant) : e.nanos ≠ now.nanos + Span.longest.nanos := by
  have hlongest : Span.longest.nanos = 9223372036854775807 * 1000000 := rfl
  have hnow := now.bounded
  have hlater := e.bounded
  omega

theorem ofSeconds?_nanos {n : Int} {span : Span} (h : Span.ofSeconds? n = some span) :
    span.nanos = n * nanosPerSecond := by
  unfold Span.ofSeconds? Span.ofNanos? at h
  split at h
  · cases h
    rfl
  · cases h

/-- A number of seconds that is no span may be cut down to one: no instant is so far from another
either way. -/
theorem reached_iff (now e : Instant) (n : Int) :
    e.nanos = now.nanos + ((Span.ofSeconds? n).getD Span.longest).nanos ↔
      e.nanos = now.nanos + n * nanosPerSecond := by
  cases h : Span.ofSeconds? n with
  | some span => rw [Option.getD_some, ofSeconds?_nanos h]
  | none =>
    rw [Option.getD_none]
    constructor
    · intro he
      exact absurd he (unreached_longest now e)
    · intro he
      exact absurd he (unreached_of_unfit h now e)

end Instant

namespace TokenPolicy

/-- A lifetime that is configured, and how many seconds it is configured to be. -/
inductive Configures (p : TokenPolicy) : Span → Int → Prop
  | access : Configures p p.accessLifetime (p.accessMinutes * 60)
  | refresh : Configures p p.refreshLifetime (p.refreshDays * 86400)
  | secret : Configures p p.secretLifetime (p.secretDays * 86400)

theorem Configures.span_eq {p : TokenPolicy} {lifetime : Span} {n : Int}
    (h : p.Configures lifetime n) : lifetime = (Span.ofSeconds? n).getD Span.longest := by
  cases h <;> rfl

end TokenPolicy

namespace Tokens

/-- What the issue of a token with a lifetime of some nanoseconds comes to: an expiry that is so
much later, or an internal refusal where no instant is. -/
inductive Dated (now : Instant) (nanos : Int) : Except Refusal IssuedToken → Prop
  | issued {token : IssuedToken} {expiry : Instant} (ht : token.expiry = some expiry)
      (he : expiry.nanos = now.nanos + nanos) : Dated now nanos (.ok token)
  | refused (text : String) (h : ∀ e : Instant, e.nanos ≠ now.nanos + nanos) :
      Dated now nanos (.error (.internal text))

namespace Dated

variable {now : Instant} {nanos nanos' : Int} {r : Except Refusal IssuedToken}

theorem congr (h : Dated now nanos r)
    (hsame : ∀ e : Instant, e.nanos = now.nanos + nanos ↔ e.nanos = now.nanos + nanos') :
    Dated now nanos' r := by
  cases h with
  | issued ht he => exact issued ht ((hsame _).1 he)
  | refused text h => exact refused text fun e he => h e ((hsame e).2 he)

theorem error_iff (h : Dated now nanos r) :
    (∃ e, r = .error e) ↔ ∀ e : Instant, e.nanos ≠ now.nanos + nanos := by
  cases h with
  | issued ht he =>
    constructor
    · rintro ⟨e, hr⟩
      cases hr
    · intro h
      exact absurd he (h _)
  | refused text h => exact ⟨fun _ => h, fun _ => ⟨_, rfl⟩⟩

theorem internal (h : Dated now nanos r) (hn : ∀ e : Instant, e.nanos ≠ now.nanos + nanos) :
    ∃ text, r = .error (.internal text) := by
  cases h with
  | issued ht he => exact absurd he (hn _)
  | refused text h => exact ⟨text, rfl⟩

/-- What is dated by a configured lifetime is dated by the seconds that it is configured to be. -/
theorem configured {p : TokenPolicy} {lifetime : Span} {n : Int}
    (hc : p.Configures lifetime n) (h : Dated now lifetime.nanos r) :
    Dated now (n * nanosPerSecond) r := by
  rw [hc.span_eq] at h
  exact h.congr fun e => Instant.reached_iff now e n

end Dated

theorem expiryAfter_cases (now : Instant) (lifetime : Span) :
    (∃ expiry, expiryAfter now lifetime = .ok expiry ∧
      expiry.nanos = now.nanos + lifetime.nanos) ∨
    (∃ text, expiryAfter now lifetime = .error (.internal text)) ∧
      ∀ e : Instant, e.nanos ≠ now.nanos + lifetime.nanos := by
  cases hx : expiryAfter now lifetime with
  | ok expiry => exact .inl ⟨expiry, rfl, expiryAfter_nanos hx⟩
  | error e =>
    right
    unfold expiryAfter at hx
    split at hx
    · cases hx
    · rename_i hadd
      cases hx
      refine ⟨⟨_, rfl⟩, fun e he => ?_⟩
      rw [Instant.add?, ← he, e.ofNanos?_of_bounded] at hadd
      cases hadd

theorem signed_dated (policy : TokenPolicy) (now : Instant) (user : UserId) (audience : Audience)
    (lifetime : Span) (serial : Uuid) :
    Dated now lifetime.nanos (signed policy now user audience lifetime serial) := by
  unfold signed
  rcases expiryAfter_cases now lifetime with ⟨expiry, hx, he⟩ | ⟨⟨text, hx⟩, hnone⟩
  · rw [hx]
    exact .issued rfl he
  · rw [hx]
    exact .refused text hnone

/-- A secret that is new is dated too, if writes of tokens are not made to fail. -/
theorem secretIssued_dated {t : Tables} {secret : Secret}
    (hd : t.tokens.contains secret.digest = false) (now : Instant) (user : UserId)
    (lifetime : Span) (id : TokenId) :
    Dated now lifetime.nanos (t.secretIssued false now user (some lifetime) id secret).1 := by
  unfold Tables.secretIssued
  rw [Option.mapM_some]
  rcases expiryAfter_cases now lifetime with ⟨expiry, hx, he⟩ | ⟨⟨text, hx⟩, hnone⟩
  · simp only [hx, hd]
    exact .issued rfl he
  · rw [hx]
    exact .refused text hnone

end Tokens

namespace Signed

/-- The claims of a text that is a signed token with the right signature. -/
def claimsOf? (key : List UInt8) (text : String) : Option Claims :=
  match Presented.ofText? text with
  | some (.signed header claims signature) => open? key header claims signature
  | _ => none

theorem claimsOf?_write (key : List UInt8) {c : Claims} (h : c.Bounded) :
    claimsOf? key (String.ofList (write key c)) = some c := by
  rw [claimsOf?, Presented.ofText?_write]
  exact open?_write key h

end Signed

namespace Tokens

/-- What the issue of a pair comes to: claims that begin now and expire the two lifetimes later, or
an internal refusal where one of these is no instant. -/
inductive PairDated (key : List UInt8) (now : Instant) (access refresh : Int) :
    Except Refusal TokenPair → Prop
  | issued {pair : TokenPair} {first second : Instant} {c c' : Claims}
      (hfirst : first.nanos = now.nanos + access) (hsecond : second.nanos = now.nanos + refresh)
      (hc : Signed.claimsOf? key pair.access = some c)
      (hc' : Signed.claimsOf? key pair.refresh = some c')
      (hbegin : c.notBefore = now.seconds ∧ c'.notBefore = now.seconds)
      (hend : c.expiry = first.seconds ∧ c'.expiry = second.seconds) :
      PairDated key now access refresh (.ok pair)
  | refused (text : String)
      (h : (∀ e : Instant, e.nanos ≠ now.nanos + access) ∨
        ∀ e : Instant, e.nanos ≠ now.nanos + refresh) :
      PairDated key now access refresh (.error (.internal text))

theorem PairDated.error_iff {key : List UInt8} {now : Instant} {access refresh : Int}
    {r : Except Refusal TokenPair} (h : PairDated key now access refresh r) :
    (∃ e, r = .error e) ↔ (∀ e : Instant, e.nanos ≠ now.nanos + access) ∨
      ∀ e : Instant, e.nanos ≠ now.nanos + refresh := by
  cases h with
  | issued hfirst hsecond =>
    constructor
    · rintro ⟨e, hr⟩
      cases hr
    · rintro (h | h)
      · exact absurd hfirst (h _)
      · exact absurd hsecond (h _)
  | refused text h => exact ⟨fun _ => h, fun _ => ⟨_, rfl⟩⟩

theorem claims_bounded (now expiry : Instant) (user : UserId) (audience : Audience)
    (serial : Uuid) : (claims now expiry user audience serial).Bounded :=
  ⟨now.seconds_bounded, now.seconds_bounded, expiry.seconds_bounded⟩

theorem paired_dated (policy : TokenPolicy) (now : Instant) (user : UserId)
    (first second : Uuid) :
    PairDated policy.key now (policy.accessMinutes * 60 * nanosPerSecond)
      (policy.refreshDays * 86400 * nanosPerSecond) (paired policy now user first second) := by
  have ha := (signed_dated policy now user .access policy.accessLifetime first).configured .access
  have hr := (signed_dated policy now user .refresh policy.refreshLifetime
    second).configured .refresh
  unfold paired
  cases haccess : signed policy now user .access policy.accessLifetime first with
  | error e =>
    rw [haccess] at ha
    obtain ⟨text, htext⟩ := ha.internal (ha.error_iff.1 ⟨e, rfl⟩)
    cases htext
    exact .refused text (.inl (ha.error_iff.1 ⟨_, rfl⟩))
  | ok access =>
    cases hrefresh : signed policy now user .refresh policy.refreshLifetime second with
    | error e =>
      rw [hrefresh] at hr
      obtain ⟨text, htext⟩ := hr.internal (hr.error_iff.1 ⟨e, rfl⟩)
      cases htext
      exact .refused text (.inr (hr.error_iff.1 ⟨_, rfl⟩))
    | ok refresh =>
      rw [haccess] at ha
      rw [hrefresh] at hr
      obtain ⟨expiry, -, rfl⟩ := signed_ok haccess
      obtain ⟨expiry', -, rfl⟩ := signed_ok hrefresh
      cases ha with
      | issued ht he =>
        cases ht
        cases hr with
        | issued ht' he' =>
          cases ht'
          exact .issued he he' (Signed.claimsOf?_write _ (claims_bounded ..))
            (Signed.claimsOf?_write _ (claims_bounded ..)) ⟨rfl, rfl⟩ ⟨rfl, rfl⟩

end Tokens

namespace Settings

theorem checkRange_ok {name : String} {limit value : Int}
    (h : checkRange name limit value = .ok ()) : 1 ≤ value ∧ value ≤ limit := by
  unfold checkRange at h
  split at h
  · assumption
  · cases h

/-- The lifetimes of a configuration that is accepted are positive and at most ten years. -/
theorem validate_lifetimes {s : Settings} (h : s.validate = .ok ()) {lifetime : Span} {n : Int}
    (hc : s.policy.tokens.Configures lifetime n) : 60 ≤ n ∧ n ≤ maxDays * 86400 := by
  obtain ⟨_, -, h⟩ := bind_eq_ok.1 h
  obtain ⟨_, haccess, h⟩ := bind_eq_ok.1 h
  obtain ⟨_, hrefresh, h⟩ := bind_eq_ok.1 h
  obtain ⟨_, hsecret, -⟩ := bind_eq_ok.1 h
  have haccess := checkRange_ok haccess
  have hrefresh := checkRange_ok hrefresh
  have hsecret := checkRange_ok hsecret
  have hdays : maxDays = 3650 := rfl
  have hminutes : maxMinutes = 3650 * 24 * 60 := rfl
  cases hc with
  | access => omega
  | refresh => omega
  | secret => omega

/-- So they are spans, to the second. -/
theorem validate_exact {s : Settings} (h : s.validate = .ok ()) {lifetime : Span} {n : Int}
    (hc : s.policy.tokens.Configures lifetime n) :
    lifetime.nanos = n * nanosPerSecond ∧ lifetime.seconds = n := by
  have hn := validate_lifetimes h hc
  have hdays : maxDays = 3650 := rfl
  have hsecond : nanosPerSecond = 1000000000 := rfl
  have hfits : -(9223372036854775807 * 1000000) ≤ n * nanosPerSecond ∧
      n * nanosPerSecond ≤ 9223372036854775807 * 1000000 := by
    rw [hsecond]
    omega
  have hspan : Span.ofSeconds? n = some ⟨n * nanosPerSecond, hfits⟩ := dif_pos hfits
  have hlifetime := hc.span_eq
  rw [hspan, Option.getD_some] at hlifetime
  subst hlifetime
  refine ⟨rfl, ?_⟩
  have hnanos : (⟨n * nanosPerSecond, hfits⟩ : Span).seconds =
      (n * nanosPerSecond).tdiv nanosPerSecond := rfl
  rw [hnanos, Int.mul_tdiv_cancel n (by decide)]

end Settings

/-- How a token is issued directly: signed for a use, or as a secret. -/
inductive Issue
  | signed (audience : Audience)
  | secret

namespace Service

/-- The direct issue of a token with a lifetime. -/
def issue (s : Service) (user : UserId) (d : Draws) (lifetime : Span) :
    Issue → Option (Except Refusal IssuedToken) × Service
  | .signed audience =>
    run worker (Tokens.issueSigned s.policy.tokens s.clock user audience lifetime d.serial) s
  | .secret => run worker (Tokens.issueSecret s.clock user (some lifetime) d.token d.secret) s

/-- The store takes a new secret: nothing disturbs it, and the digest is not stored. -/
structure TakesSecret (s : Service) (d : Draws) : Prop where
  idle : s.Idle
  writes : s.store.failsTokenWrites = false
  fresh : s.tables.tokens.contains d.secret.digest = false

variable {s : Service} {d : Draws}

theorem TakesSecret.issue_dated (h : s.TakesSecret d) (user : UserId) (lifetime : Span)
    (way : Issue) :
    ∃ r, (s.issue user d lifetime way).1 = some r ∧ Tokens.Dated s.clock lifetime.nanos r := by
  cases way with
  | signed audience =>
    obtain ⟨c, hr⟩ := s.run_issueSigned (k := worker) s.policy.tokens s.clock user audience
      lifetime d.serial
    exact ⟨_, congrArg Prod.fst hr, Tokens.signed_dated ..⟩
  | secret =>
    obtain ⟨c, hr⟩ := h.idle.run_issueSecret (k := worker) s.clock user (some lifetime) d.token
      d.secret
    rw [h.writes] at hr
    exact ⟨_, congrArg Prod.fst hr, Tokens.secretIssued_dated h.fresh ..⟩

/-- A secret that is not handed out is not stored. -/
theorem Idle.issue_failed (h : s.Idle) {user : UserId} {lifetime : Span} {e : Refusal}
    (he : (s.issue user d lifetime .secret).1 = some (.error e)) :
    (s.issue user d lifetime .secret).2.tables = s.tables := by
  obtain ⟨c, hr⟩ := h.run_issueSecret (k := worker) s.clock user (some lifetime) d.token d.secret
  have hissue : s.issue user d lifetime .secret = _ := hr
  rw [hissue] at he ⊢
  rcases s.tables.secretIssued_cases s.store.failsTokenWrites s.clock user (some lifetime) d.token
    d.secret with ⟨e', hc⟩ | ⟨expiry, -, -, hc⟩
  · rw [hc]
    rfl
  · rw [hc] at he
    cases he

/-- An issue with a configured lifetime. -/
theorem TakesSecret.issue_configured (h : s.TakesSecret d) (user : UserId) {lifetime : Span}
    {n : Int} (hc : s.policy.tokens.Configures lifetime n) (way : Issue) :
    ∃ r, (s.issue user d lifetime way).1 = some r ∧
      Tokens.Dated s.clock (n * nanosPerSecond) r := by
  obtain ⟨r, hr, hdated⟩ := h.issue_dated user lifetime way
  exact ⟨r, hr, hdated.configured hc⟩

theorem TakesSecret.issueApiKey (h : s.TakesSecret d) (user : UserId) :
    ∃ token, (s.perform (.issueApiKey user) d).1 = .ok token ∧ token.expiry = none := by
  obtain ⟨c, hr⟩ := h.idle.run_issueSecret (k := worker) s.clock user none d.token d.secret
  have hissued : (s.tables.secretIssued s.store.failsTokenWrites s.clock user none d.token
      d.secret).1 = .ok ⟨d.secret.text, .secret, none⟩ := by
    simp only [Tables.secretIssued, Option.mapM_none, h.writes, h.fresh]
    rfl
  rw [hissued] at hr
  rw [perform_eq (o := .issueApiKey user) (d := d) hr]
  exact ⟨_, rfl, rfl⟩

/-- A token for a password. -/
theorem TakesSecret.issueToken_dated (h : s.TakesSecret d) {email : String} {password : Password}
    {account : User}
    (ha : s.tables.authenticated s.policy.passwords email password = some account)
    {kind : String} {known : TokenKind} (hk : TokenKind.ofText? kind = some known) {n : Int}
    (hc : s.policy.tokens.Configures (s.policy.tokens.lifetime known) n) :
    Tokens.Dated s.clock (n * nanosPerSecond)
      (s.perform (.issueToken email password kind) d).1 := by
  obtain ⟨c, hr⟩ := h.idle.perform_issueToken hk email password d
  rw [hr, ha]
  cases known with
  | signed => exact (Tokens.signed_dated ..).configured hc
  | secret =>
    rw [h.writes]
    exact (Tokens.secretIssued_dated h.fresh ..).configured hc

theorem Idle.login_dated (h : s.Idle) {email : String} {password : Password} {account : User}
    (ha : s.tables.authenticated s.policy.passwords email password = some account) (d : Draws) :
    Tokens.PairDated s.policy.tokens.key s.clock
      (s.policy.tokens.accessMinutes * 60 * nanosPerSecond)
      (s.policy.tokens.refreshDays * 86400 * nanosPerSecond)
      (s.perform (.login email password) d).1 := by
  obtain ⟨c, hr⟩ := h.perform_login email password d
  rw [hr, ha]
  exact Tokens.paired_dated s.policy.tokens s.clock account.id d.serial d.nextSerial

/-- A refresh is refused, or it is the issue of an access token. -/
theorem Idle.refresh_dated (h : s.Idle) (text : String) (d : Draws) :
    (s.perform (.refresh text) d).1 = .error .tokenInvalid ∨
      Tokens.Dated s.clock (s.policy.tokens.accessMinutes * 60 * nanosPerSecond)
        (s.perform (.refresh text) d).1 := by
  rw [h.perform_refresh]
  cases s.tables.bearer? s.policy.tokens s.clock .refresh text with
  | none => exact .inl rfl
  | some user => exact .inr ((Tokens.signed_dated ..).configured .access)

/-- What a login tells of its access token is what the claims of that token say. -/
theorem Idle.login_expiresIn (h : s.Idle) {settings : Settings}
    (hv : settings.validate = .ok ()) (hs : settings.policy.tokens = s.policy.tokens)
    {email : String} {password : Password} {pair : TokenPair}
    (hl : (s.perform (.login email password) d).1 = .ok pair) :
    pair.expiresIn = s.policy.tokens.accessMinutes * 60 ∧
      ∃ c, Signed.claimsOf? s.policy.tokens.key pair.access = some c ∧
        c.expiry - c.notBefore = s.policy.tokens.accessMinutes * 60 := by
  obtain ⟨account, hu, hpassword, hp⟩ := login_ok h.plan (Store.holding_of_free h.held) hl
  have ha : s.tables.authenticated s.policy.passwords email password = some account :=
    Tables.authenticated_eq_some.2 ⟨hu, hpassword⟩
  have hdated := h.login_dated ha d
  obtain ⟨access, refresh, -, -, hpair⟩ := Tokens.paired_ok hp
  have hexact := Settings.validate_exact hv .access
  rw [hs] at hexact
  rw [hl] at hdated
  cases hdated with
  | issued hfirst hsecond hc hc' hbegin hend =>
    refine ⟨?_, _, hc, ?_⟩
    · rw [hpair]
      exact hexact.2
    · have hsecond : nanosPerSecond = 1000000000 := rfl
      rw [hend.1, hbegin.1, Instant.seconds, Instant.seconds, Instant.fdiv_nanosPerSecond,
        Instant.fdiv_nanosPerSecond, hfirst, hsecond]
      omega

end Service

/-- On a service that takes a new secret, at whatever instant, with whatever lifetimes: a token that
is issued expires exactly its lifetime later, and where that is no instant the issue is an internal
failure. So it is with the seconds that are configured, even if they are no span; then nothing is
ever issued. A secret that is not handed out is not stored. With a configuration that is accepted
the lifetimes are what is configured, a login tells how long its access token lives, and nothing
fails unless the clock is nearer to the end of time than the lifetime. -/
theorem lifetimes_exact (s : Service) (user : UserId) (d : Draws) (h : s.TakesSecret d) :
    (∀ way lifetime, ∃ r, (s.issue user d lifetime way).1 = some r ∧
      Tokens.Dated s.clock lifetime.nanos r) ∧
    (∃ token, (s.perform (.issueApiKey user) d).1 = .ok token ∧ token.expiry = none) ∧
    (∀ (s' : Service) lifetime e, s'.Idle → (s'.issue user d lifetime .secret).1 = some (.error e) →
      (s'.issue user d lifetime .secret).2.tables = s'.tables) ∧
    (∀ way lifetime n, s.policy.tokens.Configures lifetime n →
      ∃ r, (s.issue user d lifetime way).1 = some r ∧
        Tokens.Dated s.clock (n * nanosPerSecond) r ∧
        (Span.ofSeconds? n = none → ∃ text, r = .error (.internal text))) ∧
    (∀ email password account,
      s.tables.authenticated s.policy.passwords email password = some account →
      (∀ kind known n, TokenKind.ofText? kind = some known →
        s.policy.tokens.Configures (s.policy.tokens.lifetime known) n →
        Tokens.Dated s.clock (n * nanosPerSecond)
          (s.perform (.issueToken email password kind) d).1) ∧
      Tokens.PairDated s.policy.tokens.key s.clock
        (s.policy.tokens.accessMinutes * 60 * nanosPerSecond)
        (s.policy.tokens.refreshDays * 86400 * nanosPerSecond)
        (s.perform (.login email password) d).1) ∧
    (∀ text, (s.perform (.refresh text) d).1 = .error .tokenInvalid ∨
      Tokens.Dated s.clock (s.policy.tokens.accessMinutes * 60 * nanosPerSecond)
        (s.perform (.refresh text) d).1) ∧
    ∀ settings : Settings, settings.validate = .ok () →
      settings.policy.tokens = s.policy.tokens →
      (∀ lifetime n, s.policy.tokens.Configures lifetime n →
        lifetime.nanos = n * nanosPerSecond ∧ lifetime.seconds = n ∧
        ∀ way, (∃ e, (s.issue user d lifetime way).1 = some (.error e)) ↔
          Instant.last.nanos - s.clock.nanos < n * nanosPerSecond) ∧
      (∀ email password account,
        s.tables.authenticated s.policy.passwords email password = some account →
        ((∃ e, (s.perform (.login email password) d).1 = .error e) ↔
          Instant.last.nanos - s.clock.nanos <
              s.policy.tokens.accessMinutes * 60 * nanosPerSecond ∨
            Instant.last.nanos - s.clock.nanos <
              s.policy.tokens.refreshDays * 86400 * nanosPerSecond)) ∧
      ∀ email password pair, (s.perform (.login email password) d).1 = .ok pair →
        pair.expiresIn = s.policy.tokens.accessMinutes * 60 ∧
          ∃ c, Signed.claimsOf? s.policy.tokens.key pair.access = some c ∧
            c.expiry - c.notBefore = s.policy.tokens.accessMinutes * 60 := by
  refine ⟨fun way lifetime => h.issue_dated user lifetime way, h.issueApiKey user,
    fun s' lifetime e hs he => hs.issue_failed he, ?_, ?_, fun text => h.idle.refresh_dated text d,
    ?_⟩
  · intro way lifetime n hc
    obtain ⟨r, hr, hdated⟩ := h.issue_configured user hc way
    refine ⟨r, hr, hdated, fun hunfit => ?_⟩
    exact hdated.internal fun e => Instant.unreached_of_unfit hunfit s.clock e
  · intro email password account ha
    exact ⟨fun kind known n hk hc => h.issueToken_dated ha hk hc, h.idle.login_dated ha d⟩
  · intro settings hv hs
    have hpositive : ∀ {lifetime n}, s.policy.tokens.Configures lifetime n →
        0 ≤ n * nanosPerSecond := by
      intro lifetime n hc
      have hn := Settings.validate_lifetimes hv (hs ▸ hc)
      have hsecond : nanosPerSecond = 1000000000 := rfl
      rw [hsecond]
      omega
    refine ⟨fun lifetime n hc => ?_, fun email password account ha => ?_, fun email password pair =>
      h.idle.login_expiresIn hv hs⟩
    · obtain ⟨hnanos, hseconds⟩ := Settings.validate_exact hv (hs ▸ hc)
      refine ⟨hnanos, hseconds, fun way => ?_⟩
      obtain ⟨r, hr, hdated⟩ := h.issue_configured user hc way
      rw [hr, ← s.clock.unreached_iff (hpositive hc), ← hdated.error_iff]
      exact exists_congr fun e => Option.some_inj
    · rw [(h.idle.login_dated ha d).error_iff, s.clock.unreached_iff (hpositive .access),
        s.clock.unreached_iff (hpositive .refresh)]

namespace Sample

def configuration : Settings where
  listener := {}
  environment := .dev
  serviceName := "membership-service"
  serviceVersion := "0.1.0"
  logLevel := "info"
  store := ⟨.memory, none, 20, 2, 5000⟩
  policy := openPolicy
  purgeSeconds := 3600
  hashConcurrency := 1

theorem configuration_valid : configuration.validate = .ok () := by
  rfl

/-- Lifetimes that are out of bounds on either side. -/
def boundless : TokenPolicy :=
  { policy.tokens with accessMinutes := 9223372036854775807, secretDays := -9223372036854775808 }

theorem entered_takesSecret (tokens : TokenPolicy) : (entered tokens).TakesSecret (draws 5) := by
  refine ⟨entered_idle tokens, entered_writes tokens, ?_⟩
  rw [entered_tables]
  rfl

end Sample

open Sample in
/-- A login with the usual lifetimes, and issues with lifetimes that are out of bounds. -/
theorem lifetimes_exact_sample :
    configuration.validate = .ok () ∧
      (∃ pair, ((entered policy.tokens).perform (.login "a@b.c" ⟨""⟩) (draws 5)).1 = .ok pair ∧
        pair.expiresIn = 900) ∧
      (∃ text, ((entered boundless).issue member (draws 5) boundless.accessLifetime
        (.signed .access)).1 = some (.error (.internal text))) ∧
      ∃ text, ((entered boundless).issue member (draws 5) boundless.secretLifetime .secret).1 =
        some (.error (.internal text)) := by
  obtain ⟨pair, hpair⟩ : ∃ pair,
      Tokens.paired policy.tokens clock member (draws 5).serial (draws 5).nextSerial = .ok pair :=
    ⟨_, rfl⟩
  have hlogin := entered_login (draws 5) hpair
  obtain ⟨-, -, -, -, -, -, hvalid⟩ := lifetimes_exact (entered policy.tokens) member (draws 5)
    (entered_takesSecret policy.tokens)
  obtain ⟨-, -, hexpires⟩ := hvalid configuration configuration_valid (by rw [entered_policy]; rfl)
  have hin := (hexpires _ _ pair hlogin).1
  rw [entered_policy] at hin
  obtain ⟨-, -, -, hboundless, -⟩ := lifetimes_exact (entered boundless) member (draws 5)
    (entered_takesSecret boundless)
  rw [entered_policy] at hboundless
  obtain ⟨access, haccess, -, hunfit⟩ := hboundless (.signed .access) _ _ .access
  obtain ⟨secret, hsecret, -, hunfit'⟩ := hboundless .secret _ _ .secret
  obtain ⟨text, rfl⟩ := hunfit (by decide)
  obtain ⟨text', rfl⟩ := hunfit' (by decide)
  exact ⟨configuration_valid, ⟨pair, hlogin, hin⟩, ⟨text, haccess⟩, text', hsecret⟩

end GroupAccess
