import GroupAccess.Proofs.Operation.Credentials
import GroupAccess.Proofs.Service.Looking

namespace GroupAccess

namespace Tokens

/-- The claims of a token that is accepted are for the use that it is accepted for. -/
theorem acceptSigned_audience {policy : TokenPolicy} {now : Instant} {audience : Audience}
    {header claims signature : List Char} {user : UserId}
    (h : acceptSigned policy now audience header claims signature = some user) :
    ∃ c, Signed.open? policy.key header claims signature = some c ∧ c.audience = audience := by
  obtain ⟨c, hc, ha⟩ := Option.bind_eq_some_iff.1 h
  refine ⟨c, hc, ?_⟩
  unfold accept at ha
  split at ha
  · rename_i hvalid
    exact hvalid.2.2
  · cases ha

/-- A text is refused for one of the uses before the store is asked. -/
theorem resolve_or_refresh (policy : TokenPolicy) (now now' : Instant) (text : String)
    (serial : Uuid) :
    resolve policy now text = .done (.error .tokenInvalid) ∨
      refresh policy now' text serial = .done (.error .tokenInvalid) := by
  cases hp : Presented.ofText? text with
  | none =>
    left
    rw [resolve, hp]
    rfl
  | some presented =>
    cases presented with
    | secret s =>
      right
      rw [refresh, hp]
      rfl
    | signed header claims signature =>
      cases ha : acceptSigned policy now .access header claims signature with
      | none =>
        left
        simp only [resolve, hp, Program.require, Program.bind_eq, Program.bind_ok, ha]
        rfl
      | some user =>
        right
        have hr : acceptSigned policy now' .refresh header claims signature = none := by
          apply Option.eq_none_iff_forall_not_mem.2
          intro user' hr
          obtain ⟨c, hc, haccess⟩ := acceptSigned_audience ha
          obtain ⟨c', hc', hrefresh⟩ := acceptSigned_audience hr
          cases hc.symm.trans hc'
          cases haccess.symm.trans hrefresh
        simp only [refresh, hp, Program.require, Program.bind_eq, Program.bind_ok, hr]
        rfl

section

variable (policy : TokenPolicy) (now issued expiry : Instant) (user : UserId) (serial : Uuid)

/-- A token that was written for one use is not accepted for another. -/
theorem acceptSigned_write {a b : Audience} (hab : b ≠ a) :
    acceptSigned policy now a (Signed.segment Signed.header)
      (Signed.segment (claims issued expiry user b serial).toJson)
      (Signed.signature policy.key (Signed.segment Signed.header)
        (Signed.segment (claims issued expiry user b serial).toJson)) = none := by
  have hc : (claims issued expiry user b serial).Bounded :=
    ⟨issued.seconds_bounded, issued.seconds_bounded, expiry.seconds_bounded⟩
  rw [acceptSigned, Signed.open?_write policy.key hc, Option.bind_some, accept]
  exact if_neg fun h => hab h.2.2

theorem resolve_refreshToken :
    resolve policy now (String.ofList
      (Signed.write policy.key (claims issued expiry user .refresh serial))) =
        .done (.error .tokenInvalid) := by
  have hne : Audience.refresh ≠ Audience.access := by decide
  simp only [resolve, Presented.ofText?_write, Program.require, Program.bind_eq, Program.bind_ok,
    acceptSigned_write policy now issued expiry user serial hne]
  rfl

theorem refresh_accessToken (fresh : Uuid) :
    refresh policy now (String.ofList
      (Signed.write policy.key (claims issued expiry user .access serial))) fresh =
        .done (.error .tokenInvalid) := by
  have hne : Audience.access ≠ Audience.refresh := by decide
  simp only [refresh, Presented.ofText?_write, Program.require, Program.bind_eq, Program.bind_ok,
    acceptSigned_write policy now issued expiry user serial hne]
  rfl

end

/-- The issue of a signed token, by whether its expiry is an instant. -/
theorem signed_eq (policy : TokenPolicy) (now : Instant) (user : UserId) (audience : Audience)
    (lifetime : Span) (serial : Uuid) :
    signed policy now user audience lifetime serial =
      match now.add? lifetime with
      | some expiry => .ok ⟨String.ofList (Signed.write policy.key
          (claims now expiry user audience serial)), .signed, some expiry⟩
      | none => .error (.internal s!"token lifetime {lifetime.text} out of range") := by
  rw [signed, expiryAfter]
  cases now.add? lifetime <;> rfl

end Tokens

namespace Service

variable {s : Service}

theorem perform_resolveToken_refused {text : String} {e : Refusal}
    (h : Tokens.resolve s.policy.tokens s.clock text = .done (.error e)) (d : Draws) :
    (s.perform (.resolveToken text) d).1 = .error e := by
  have hp : (Operation.resolveToken text).program s.policy s.clock d =
      Operation.countingAuth (.done (.error e)) := congrArg Operation.countingAuth h
  rw [perform, hp]
  rfl

theorem perform_refresh_refused {text : String} {e : Refusal} {d : Draws}
    (h : Tokens.refresh s.policy.tokens s.clock text d.serial = .done (.error e)) :
    (s.perform (.refresh text) d).1 = .error e := by
  have hp : (Operation.refresh text).program s.policy s.clock d =
      Operation.countingAuth (.done (.error e)) := congrArg Operation.countingAuth h
  rw [perform, hp]
  rfl

/-- No text is good for both uses, not even in different states. -/
theorem refresh_of_resolved {s' : Service} (hp : s'.policy = s.policy) {text : String}
    {d : Draws} {user : UserId} (h : (s.perform (.resolveToken text) d).1 = .ok user)
    (d' : Draws) : (s'.perform (.refresh text) d').1 = .error .tokenInvalid := by
  rcases Tokens.resolve_or_refresh s.policy.tokens s.clock s'.clock text d'.serial with hr | hr
  · rw [perform_resolveToken_refused hr] at h
    cases h
  · rw [← hp] at hr
    exact perform_refresh_refused hr

theorem refresh_secret {text : String} {secret : Secret}
    (h : Presented.ofText? text = some (.secret secret)) (d : Draws) :
    (s.perform (.refresh text) d).1 = .error .tokenInvalid := by
  apply perform_refresh_refused
  rw [Tokens.refresh, h]
  rfl

/-- While the tables are held, an operation that only looks times out, or it is answered as it is
without any rows. -/
theorem Blocked.perform_refused (h : s.Blocked worker) {o : Operation}
    (hm : ∀ m ∈ o.methods, m.reads = true ∧ m ≠ .health) (d : Draws) {e : Refusal}
    (he : ∀ s' : Service, s'.Idle → s'.tables = {} → (s'.perform o d).1 = .error e) :
    (s.perform o d).1 = .error (s.timedOut o.name) ∨ (s.perform o d).1 = .error e := by
  rcases h.perform_cases hm d with ht | hsame
  · exact .inl ht
  · right
    have hempty := he { s with store := {}, plan := .none } ⟨rfl, rfl⟩ rfl
    have hsame := hsame { s with store := {}, plan := .none } rfl rfl
    exact hsame.symm.trans hempty

/-- Nobody is the bearer of anything where nobody is registered. -/
theorem bearer?_empty (policy : TokenPolicy) (now : Instant) (audience : Audience)
    (text : String) : Tables.bearer? {} policy now audience text = none := by
  rw [Tables.bearer?]
  cases (Presented.ofText? text).bind _ <;> rfl

/-- The answers to a token that is to be resolved. -/
theorem resolveToken_cases (hp : s.plan = .none) (hf : s.store.holding worker = none)
    (text : String) (d : Draws) :
    (s.perform (.resolveToken text) d).1 = .error .tokenInvalid ∨
      (∃ user, s.tables.users.contains user = true ∧
        (s.perform (.resolveToken text) d).1 = .ok user) ∨
      s.store.held.isSome = true ∧
        (s.perform (.resolveToken text) d).1 = .error (s.timedOut "resolve_token") := by
  rcases idle_or_blocked hp hf with h | h
  · rw [h.perform_resolveToken]
    cases hb : s.tables.bearer? s.policy.tokens s.clock .access text with
    | none => exact .inl rfl
    | some user => exact .inr (.inl ⟨user, (Option.filter_eq_some_iff.1 hb).2, rfl⟩)
  · have hm : ∀ m ∈ (Operation.resolveToken text).methods, m.reads = true ∧ m ≠ .health := by
      simp [Operation.methods, Method.reads]
    rcases h.perform_refused hm d (e := .tokenInvalid) (fun s' hs ht => by
      rw [hs.perform_resolveToken, ht, bearer?_empty]
      rfl) with hr | hr
    · exact .inr (.inr ⟨h.held, hr⟩)
    · exact .inl hr

/-- The answers to a token that is to be renewed. -/
theorem refresh_cases (hp : s.plan = .none) (hf : s.store.holding worker = none)
    (text : String) (d : Draws) :
    (s.perform (.refresh text) d).1 = .error .tokenInvalid ∨
      (∃ user, s.tables.users.contains user = true ∧ (s.perform (.refresh text) d).1 =
        match s.clock.add? s.policy.tokens.accessLifetime with
        | some expiry => .ok ⟨String.ofList (Signed.write s.policy.tokens.key
            (Tokens.claims s.clock expiry user .access d.serial)), .signed, some expiry⟩
        | none => .error (.internal
            s!"token lifetime {s.policy.tokens.accessLifetime.text} out of range")) ∨
      s.store.held.isSome = true ∧
        (s.perform (.refresh text) d).1 = .error (s.timedOut "refresh") := by
  rcases idle_or_blocked hp hf with h | h
  · rw [h.perform_refresh]
    cases hb : s.tables.bearer? s.policy.tokens s.clock .refresh text with
    | none => exact .inl rfl
    | some user =>
      exact .inr (.inl ⟨user, (Option.filter_eq_some_iff.1 hb).2, Tokens.signed_eq ..⟩)
  · have hm : ∀ m ∈ (Operation.refresh text).methods, m.reads = true ∧ m ≠ .health := by
      simp [Operation.methods, Method.reads]
    rcases h.perform_refused hm d (e := .tokenInvalid) (fun s' hs ht => by
      rw [hs.perform_refresh, ht, bearer?_empty]
      rfl) with hr | hr
    · exact .inr (.inr ⟨h.held, hr⟩)
    · exact .inl hr

/-- A login that succeeds has found the tables free, and the account of its address and password. -/
theorem login_ok (hp : s.plan = .none) (hf : s.store.holding worker = none) {email : String}
    {password : Password} {d : Draws} {pair : TokenPair}
    (h : (s.perform (.login email password) d).1 = .ok pair) :
    ∃ user, s.tables.findUserByEmail (Email.normalize email) = some user ∧
      password.verify user.passwordHash s.policy.passwords.serverSecret = true ∧
      Tokens.paired s.policy.tokens s.clock user.id d.serial d.nextSerial = .ok pair := by
  rcases idle_or_blocked hp hf with hi | hb
  · obtain ⟨c, hl⟩ := hi.perform_login email password d
    rw [hl] at h
    cases ha : s.tables.authenticated s.policy.passwords email password with
    | none =>
      rw [ha] at h
      cases h
    | some user =>
      rw [ha] at h
      obtain ⟨hu, hv⟩ := Tables.authenticated_eq_some.1 ha
      exact ⟨user, hu, hv, h⟩
  · have hm : ∀ m ∈ (Operation.login email password).methods, m.reads = true ∧ m ≠ .health := by
      simp [Operation.methods, Method.reads]
    rcases hb.perform_refused hm d (e := .badCredentials) (fun s' hs ht => by
      obtain ⟨c, hl⟩ := hs.perform_login email password d
      rw [hl, ht]
      rfl) with hr | hr
    · rw [hr] at h
      cases h
    · rw [hr] at h
      cases h

/-- The service as `s'`, under the same policy and at the same instant, with the user registered. -/
structure Alongside (s s' : Service) (user : UserId) : Prop where
  idle : s'.Idle
  policy : s'.policy = s.policy
  clock : s'.clock = s.clock
  registered : s'.tables.users.contains user = true

/-- A signed token at the instant of its issue. -/
theorem Alongside.bearer? {s' : Service} {user : UserId} (h : s.Alongside s' user)
    {a b : Audience} {lifetime : Span} {serial : Uuid} {token : IssuedToken}
    (hi : Tokens.signed s.policy.tokens s.clock user b lifetime serial = .ok token)
    (hl : lifetime.nanos < 0 → lifetime.nanos ≤ -1000000000) :
    s'.tables.bearer? s'.policy.tokens s'.clock a token.text =
      if b = a ∧ 0 ≤ lifetime.nanos then some user else none := by
  rw [h.policy, h.clock]
  exact s'.tables.bearer?_signed hi hl h.registered

section

variable {user : UserId} {first second : Uuid} {pair : TokenPair}

/-- The access token of a pair is good for its user at once, unless its lifetime is negative. -/
theorem paired_access {s' : Service}
    (hi : Tokens.paired s.policy.tokens s.clock user first second = .ok pair)
    (h : s.Alongside s' user) (d : Draws) :
    (s'.perform (.resolveToken pair.access) d).1 =
      if 0 ≤ s.policy.tokens.accessLifetime.nanos then .ok user else .error .tokenInvalid := by
  obtain ⟨access, refresh, ha, -, rfl⟩ := Tokens.paired_ok hi
  rw [h.idle.perform_resolveToken, h.bearer? ha Span.nanos_of_ofSeconds?_getD, Tokens.answer_ite]
  exact if_congr ⟨And.right, fun hl => ⟨rfl, hl⟩⟩ rfl rfl

/-- The refresh token of a pair is renewed at once, unless its lifetime is negative. -/
theorem paired_refresh {s' : Service}
    (hi : Tokens.paired s.policy.tokens s.clock user first second = .ok pair)
    (h : s.Alongside s' user) (d : Draws) :
    if 0 ≤ s.policy.tokens.refreshLifetime.nanos then
      ∃ token, (s'.perform (.refresh pair.refresh) d).1 = .ok token ∧
        ∀ d', ((s'.perform (.refresh pair.refresh) d).2.perform (.resolveToken token.text) d').1 =
          if 0 ≤ s.policy.tokens.accessLifetime.nanos then .ok user else .error .tokenInvalid
    else (s'.perform (.refresh pair.refresh) d).1 = .error .tokenInvalid := by
  obtain ⟨access, refresh, ha, hr, rfl⟩ := Tokens.paired_ok hi
  have hrenewed := h.idle.perform_refresh refresh.text d
  rw [h.bearer? hr Span.nanos_of_ofSeconds?_getD, Tokens.renewed_ite, h.policy, h.clock]
    at hrenewed
  by_cases hl : 0 ≤ s.policy.tokens.refreshLifetime.nanos
  · rw [if_pos hl]
    rw [if_pos ⟨rfl, hl⟩] at hrenewed
    -- The access token of the pair shows that the expiry of a new one is an instant too.
    have hexpiry : ∃ expiry, s.clock.add? s.policy.tokens.accessLifetime = some expiry := by
      cases he : s.clock.add? s.policy.tokens.accessLifetime with
      | some expiry => exact ⟨expiry, rfl⟩
      | none =>
        rw [Tokens.signed_eq, he] at ha
        cases ha
    obtain ⟨expiry, he⟩ := hexpiry
    rw [Tokens.signed_of_add? he] at hrenewed
    refine ⟨_, hrenewed, fun d' => ?_⟩
    obtain ⟨c, hs⟩ := h.idle.perform_reads (o := .refresh refresh.text) (d := d) rfl
    have hlater : s.Alongside (s'.perform (.refresh refresh.text) d).2 user := by
      rw [hs]
      exact ⟨h.idle.leaving _ c, h.policy, h.clock, h.registered⟩
    rw [hlater.idle.perform_resolveToken,
      hlater.bearer? (Tokens.signed_of_add? he) Span.nanos_of_ofSeconds?_getD, Tokens.answer_ite]
    exact if_congr ⟨And.right, fun hl => ⟨rfl, hl⟩⟩ rfl rfl
  · rw [if_neg hl]
    rwa [if_neg fun hc => hl hc.2] at hrenewed

/-- Whatever becomes of the service, neither token of a pair is good for the use of the other. -/
theorem paired_apart {s' : Service}
    (hi : Tokens.paired s.policy.tokens s.clock user first second = .ok pair)
    (hp : s'.policy = s.policy) (d : Draws) :
    (s'.perform (.refresh pair.access) d).1 = .error .tokenInvalid ∧
      (s'.perform (.resolveToken pair.refresh) d).1 = .error .tokenInvalid := by
  obtain ⟨access, refresh, ha, hr, rfl⟩ := Tokens.paired_ok hi
  obtain ⟨expiry, -, rfl⟩ := Tokens.signed_ok ha
  obtain ⟨expiry', -, rfl⟩ := Tokens.signed_ok hr
  constructor
  · apply perform_refresh_refused
    rw [hp]
    exact Tokens.refresh_accessToken ..
  · apply perform_resolveToken_refused
    rw [hp]
    exact Tokens.resolve_refreshToken ..

end

end Service

/-- Whatever state the service is in, with no failures planned and no transaction of its own open:
no text is good for both uses, and a secret is never renewed. A text is an invalid token, or it is
answered for by a registered user; only a renewal can fail otherwise, when the new expiry is no
instant, and any use that has to wait too long for another transaction times out. What a login gives
is good for its user at that instant, as far as the lifetimes are not negative, and neither token is
ever good for the use of the other. The store stays as it is. -/
theorem token_uses_apart (s : Service) (hp : s.plan = .none)
    (hf : s.store.holding Service.worker = none) :
    (∀ (s' : Service) text d d' user, s'.policy = s.policy →
      (s.perform (.resolveToken text) d).1 = .ok user →
        (s'.perform (.refresh text) d').1 = .error .tokenInvalid) ∧
    (∀ text secret d, Presented.ofText? text = some (.secret secret) →
      (s.perform (.refresh text) d).1 = .error .tokenInvalid) ∧
    (∀ text d,
      ((s.perform (.resolveToken text) d).1 = .error .tokenInvalid ∨
        (∃ user, s.tables.users.contains user = true ∧
          (s.perform (.resolveToken text) d).1 = .ok user) ∨
        s.store.held.isSome = true ∧
          (s.perform (.resolveToken text) d).1 = .error (s.timedOut "resolve_token")) ∧
      ((s.perform (.refresh text) d).1 = .error .tokenInvalid ∨
        (∃ user, s.tables.users.contains user = true ∧ (s.perform (.refresh text) d).1 =
          match s.clock.add? s.policy.tokens.accessLifetime with
          | some expiry => .ok ⟨String.ofList (Signed.write s.policy.tokens.key
              (Tokens.claims s.clock expiry user .access d.serial)), .signed, some expiry⟩
          | none => .error (.internal
              s!"token lifetime {s.policy.tokens.accessLifetime.text} out of range")) ∨
        s.store.held.isSome = true ∧
          (s.perform (.refresh text) d).1 = .error (s.timedOut "refresh"))) ∧
    (∀ email password d pair, (s.perform (.login email password) d).1 = .ok pair →
      ∃ user, s.tables.findUserByEmail (Email.normalize email) = some user ∧
        password.verify user.passwordHash s.policy.passwords.serverSecret = true ∧
        (∀ s' d', s.Alongside s' user.id →
          ((s'.perform (.resolveToken pair.access) d').1 =
            if 0 ≤ s.policy.tokens.accessLifetime.nanos then .ok user.id
            else .error .tokenInvalid) ∧
          if 0 ≤ s.policy.tokens.refreshLifetime.nanos then
            ∃ token, (s'.perform (.refresh pair.refresh) d').1 = .ok token ∧
              ∀ d'', ((s'.perform (.refresh pair.refresh) d').2.perform
                (.resolveToken token.text) d'').1 =
                  if 0 ≤ s.policy.tokens.accessLifetime.nanos then .ok user.id
                  else .error .tokenInvalid
          else (s'.perform (.refresh pair.refresh) d').1 = .error .tokenInvalid) ∧
        ∀ (s' : Service) d', s'.policy = s.policy →
          (s'.perform (.refresh pair.access) d').1 = .error .tokenInvalid ∧
            (s'.perform (.resolveToken pair.refresh) d').1 = .error .tokenInvalid) ∧
    ∀ text d, (s.perform (.resolveToken text) d).2.store = s.store ∧
      (s.perform (.refresh text) d).2.store = s.store := by
  refine ⟨?_, ?_, ?_, ?_, ?_⟩
  · intro s' text d d' user hpolicy hr
    exact Service.refresh_of_resolved hpolicy hr d'
  · intro text secret d hs
    exact Service.refresh_secret hs d
  · intro text d
    exact ⟨Service.resolveToken_cases hp hf text d, Service.refresh_cases hp hf text d⟩
  · intro email password d pair hl
    obtain ⟨user, hu, hv, hi⟩ := Service.login_ok hp hf hl
    refine ⟨user, hu, hv, fun s' d' h => ?_, fun s' d' hpolicy => ?_⟩
    · exact ⟨Service.paired_access hi h d', Service.paired_refresh hi h d'⟩
    · exact Service.paired_apart hi hpolicy d'
  · intro text d
    obtain ⟨c, hresolve⟩ := s.perform_looks hf (o := .resolveToken text) rfl d
    obtain ⟨c', hrefresh⟩ := s.perform_looks hf (o := .refresh text) rfl d
    rw [hresolve, hrefresh]
    exact ⟨rfl, rfl⟩

namespace Sample

theorem entered_alongside (tokens : TokenPolicy) :
    (entered tokens).Alongside (entered tokens) account.id :=
  ⟨entered_idle tokens, rfl, rfl, entered_registered tokens⟩

/-- Tokens that have expired before they are issued. -/
def backdated : TokenPolicy := { policy.tokens with accessMinutes := -5 }

/-- While a redemption of another agent holds the tables. -/
def waiting : Service := { entered policy.tokens with store.held := some (0, ⟨[], false⟩) }

end Sample

open Sample in
/-- A login with the usual lifetimes. -/
theorem token_uses_apart_sample :
    ∃ pair, ((entered policy.tokens).perform (.login "a@b.c" ⟨""⟩) (draws 5)).1 = .ok pair ∧
      ((entered policy.tokens).perform (.resolveToken pair.access) (draws 6)).1 = .ok member ∧
      ((entered policy.tokens).perform (.refresh pair.access) (draws 6)).1 =
        .error .tokenInvalid ∧
      ∃ token, ((entered policy.tokens).perform (.refresh pair.refresh) (draws 6)).1 =
        .ok token := by
  obtain ⟨pair, hpair⟩ : ∃ pair,
      Tokens.paired policy.tokens clock member (draws 5).serial (draws 5).nextSerial = .ok pair :=
    ⟨_, rfl⟩
  have hlogin := entered_login (draws 5) hpair
  have hi := entered_idle policy.tokens
  obtain ⟨-, -, -, hd, -⟩ := token_uses_apart (entered policy.tokens) hi.plan
    (Store.holding_of_free hi.held)
  obtain ⟨user, hu, -, huse, hapart⟩ := hd _ _ _ _ hlogin
  cases hu.symm.trans (entered_account policy.tokens)
  obtain ⟨haccess, hrefresh⟩ := huse _ (draws 6) (entered_alongside policy.tokens)
  have hlives : 0 ≤ policy.tokens.accessLifetime.nanos := by decide
  have hrenews : 0 ≤ policy.tokens.refreshLifetime.nanos := by decide
  rw [entered_policy, if_pos hlives] at haccess
  rw [entered_policy, if_pos hrenews] at hrefresh
  obtain ⟨token, htoken, -⟩ := hrefresh
  exact ⟨pair, hlogin, haccess, (hapart _ (draws 6) rfl).1, token, htoken⟩

open Sample in
/-- The access token of a login is not good for its user at once if its lifetime is negative, and a
text can be refused otherwise than as an invalid token while a transaction is open. -/
theorem login_expired :
    (∃ pair, ((entered backdated).perform (.login "a@b.c" ⟨""⟩) (draws 5)).1 = .ok pair ∧
      (entered backdated).tables.users.contains member = true ∧
      ((entered backdated).perform (.resolveToken pair.access) (draws 6)).1 =
        .error .tokenInvalid) ∧
      (waiting.perform (.resolveToken (draws 9).secret.text) (draws 6)).1 =
        .error (.internal "resolve_token timed out after 5s") := by
  obtain ⟨pair, hpair⟩ : ∃ pair,
      Tokens.paired backdated clock member (draws 5).serial (draws 5).nextSerial = .ok pair :=
    ⟨_, rfl⟩
  have hexpired : ¬0 ≤ backdated.accessLifetime.nanos := by decide
  refine ⟨⟨pair, entered_login (draws 5) hpair, entered_registered backdated, ?_⟩, ?_⟩
  · have hissued : Tokens.paired (entered backdated).policy.tokens (entered backdated).clock
        account.id (draws 5).serial (draws 5).nextSerial = .ok pair := by
      rw [entered_policy, entered_clock]
      exact hpair
    have haccess := Service.paired_access hissued (entered_alongside backdated) (draws 6)
    rwa [entered_policy, if_neg hexpired] at haccess
  · rfl

end GroupAccess
