import GroupAccess.Proofs.Token.Session

namespace GroupAccess

namespace Tokens

theorem expiryAfter_nanos {now expiry : Instant} {lifetime : Span}
    (h : expiryAfter now lifetime = .ok expiry) : expiry.nanos = now.nanos + lifetime.nanos := by
  unfold expiryAfter Instant.add? Instant.ofNanos? at h
  split at h
  · rename_i he
    split at he
    · cases he
      cases h
      rfl
    · cases he
  · cases h

theorem mapM_expiryAfter_nanos {now : Instant} {lifetime : Option Span} {expiry : Option Instant}
    (h : lifetime.mapM (expiryAfter now) = .ok expiry) :
    expiry.map Instant.nanos = lifetime.map fun l => now.nanos + l.nanos := by
  cases lifetime with
  | none =>
    cases h
    rfl
  | some l =>
    cases he : expiryAfter now l with
    | error e =>
      rw [Option.mapM_some, he] at h
      cases h
    | ok e =>
      rw [Option.mapM_some, he] at h
      cases h
      exact congrArg some (expiryAfter_nanos he)

/-- A signed token that is handed out. -/
theorem signed_ok {policy : TokenPolicy} {now : Instant} {user : UserId} {audience : Audience}
    {lifetime : Span} {serial : Uuid} {token : IssuedToken}
    (h : signed policy now user audience lifetime serial = .ok token) :
    ∃ expiry, expiry.nanos = now.nanos + lifetime.nanos ∧
      token = ⟨String.ofList (Signed.write policy.key (claims now expiry user audience serial)),
        .signed, some expiry⟩ := by
  unfold signed at h
  cases he : expiryAfter now lifetime with
  | error e =>
    rw [he] at h
    cases h
  | ok expiry =>
    rw [he] at h
    cases h
    exact ⟨expiry, expiryAfter_nanos he, rfl⟩

theorem answer_ite (p : Prop) [Decidable p] (user : UserId) :
    answer (if p then some user else none) = if p then .ok user else .error .tokenInvalid := by
  by_cases h : p
  · rw [if_pos h, if_pos h]
    rfl
  · rw [if_neg h, if_neg h]
    rfl

theorem renewed_ite {policy : TokenPolicy} {now : Instant} {serial : Uuid} (p : Prop)
    [Decidable p] (user : UserId) :
    renewed policy now serial (if p then some user else none) =
      if p then signed policy now user .access policy.accessLifetime serial
      else .error .tokenInvalid := by
  by_cases h : p
  · rw [if_pos h, if_pos h]
    rfl
  · rw [if_neg h, if_neg h]
    rfl

end Tokens

namespace Service

/-- The user is registered, and the clock is between some whole seconds. -/
def Within (s : Service) (user : UserId) (first last : Int) : Prop :=
  s.tables.users.contains user = true ∧ first ≤ s.clock.seconds ∧ s.clock.seconds ≤ last

instance (s : Service) (user : UserId) (first last : Int) : Decidable (s.Within user first last) :=
  inferInstanceAs (Decidable (_ ∧ _ ∧ _))

/-- The answer to a secret in the turns after its issue. -/
theorem Idle.resolve_secret {s : Service} (h : s.Idle) {seen : List UserId}
    (hseen : ∀ id, s.tables.users.contains id = true → id ∈ seen) {user : UserId}
    {lifetime : Option Span} {id : TokenId} {secret : Secret} {token : IssuedToken}
    (hi : (run worker (Tokens.issueSecret s.clock user lifetime id secret) s).1 =
      some (.ok token)) {after : List Turn} (hu : (seen ++ after.filterMap Turn.user?).Nodup)
    (hd : secret.digest ∉ after.filterMap Turn.digest?) (d : Draws) :
    let s₁ := s.turn (.issueSecret user lifetime id secret)
    token.expiry.map Instant.nanos = (lifetime.map fun l => s.clock.nanos + l.nanos) ∧
      ((s₁.play after).perform (.resolveToken token.text) d).1 =
        if (s₁.play after).tables.users.contains user = true ∧
          ∀ e ∈ token.expiry, (s₁.play after).clock ≤ e ∧ ∀ past ∈ s₁.purgesOf after, past ≤ e
        then .ok user else .error .tokenInvalid := by
  intro s₁
  obtain ⟨c, hr⟩ := h.run_issueSecret (k := worker) s.clock user lifetime id secret
  have hs₁ : s₁ = (run worker (Tokens.issueSecret s.clock user lifetime id secret) s).2 := rfl
  rw [hr] at hi hs₁
  rcases s.tables.secretIssued_cases s.store.failsTokenWrites s.clock user lifetime id secret with
    ⟨e, he⟩ | ⟨expiry, hexpiry, -, he⟩
  · rw [he] at hi
    cases hi
  rw [he] at hi hs₁
  cases hi
  refine ⟨Tokens.mapM_expiryAfter_nanos hexpiry, ?_⟩
  let r : SecretRecord := ⟨id, user, secret.digest, expiry, s.clock⟩
  have hi₁ : s₁.Idle := hs₁ ▸ h.leaving _ c
  have hr₁ : s₁.tables.tokens.get? r.digest = some r := by
    rw [hs₁]
    exact Table.get?_insert_self ..
  have hseen₁ : ∀ id, s₁.tables.users.contains id = true → id ∈ seen := by
    rw [hs₁]
    exact hseen
  have hst := hi₁.standing_play hseen₁ hr₁ after hu hd
  rw [(hi₁.play after).1.perform_resolveToken, hst.bearer? _ _ rfl, Tokens.answer_ite]

theorem resolve_signed {s s' : Service} (hs : s'.Idle) (hp : s'.policy = s.policy) {user : UserId}
    {audience : Audience} {lifetime : Span} {serial : Uuid} {token : IssuedToken}
    (hi : (run worker (Tokens.issueSigned s.policy.tokens s.clock user audience lifetime serial)
      s).1 = some (.ok token)) (d : Draws) :
    ∃ e, e.nanos = s.clock.nanos + lifetime.nanos ∧ token.expiry = some e ∧
      ((s'.perform (.resolveToken token.text) d).1 =
        if audience = .access ∧ s'.Within user s.clock.seconds e.seconds then .ok user
        else .error .tokenInvalid) ∧
      ((s'.perform (.refresh token.text) d).1 =
        if audience = .refresh ∧ s'.Within user s.clock.seconds e.seconds then
          Tokens.signed s.policy.tokens s'.clock user .access s.policy.tokens.accessLifetime
            d.serial
        else .error .tokenInvalid) := by
  obtain ⟨c, hr⟩ := s.run_issueSigned (k := worker) s.policy.tokens s.clock user audience lifetime
    serial
  rw [hr] at hi
  obtain ⟨e, he, rfl⟩ := Tokens.signed_ok (Option.some.inj hi)
  refine ⟨e, he, rfl, ?_, ?_⟩
  · rw [hs.perform_resolveToken, hp, Tables.bearer?_write]
    exact Tokens.answer_ite _ user
  · rw [hs.perform_refresh, hp, Tables.bearer?_write]
    exact Tokens.renewed_ite _ user

end Service

namespace Sample

def registration : Turn := .step entry

def registered : Service := (Service.start openPolicy 5000 clock).play [registration]

end Sample

end GroupAccess
