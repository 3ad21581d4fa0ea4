import GroupAccess.Proofs.Token.Issue

namespace GroupAccess

namespace Service

/-- After some turns the user is registered and the clock not behind, and nothing was purged. -/
structure Undisturbed (s : Service) (user : UserId) (turns : List Turn) : Prop where
  registered : (s.play turns).tables.users.contains user = true
  unpurged : s.purgesOf turns = []
  later : s.clock ≤ (s.play turns).clock

theorem turn_issueSigned_clock (s : Service) (user : UserId) (audience : Audience)
    (lifetime : Span) (serial : Uuid) :
    (s.turn (.issueSigned user audience lifetime serial)).clock = s.clock := by
  obtain ⟨c, hr⟩ := s.run_issueSigned (k := worker) s.policy.tokens s.clock user audience
    lifetime serial
  rw [turn, hr]
  rfl

theorem Idle.turn_issueSecret_clock {s : Service} (h : s.Idle) (user : UserId)
    (lifetime : Option Span) (id : TokenId) (secret : Secret) :
    (s.turn (.issueSecret user lifetime id secret)).clock = s.clock := by
  obtain ⟨c, hr⟩ := h.run_issueSecret (k := worker) s.clock user lifetime id secret
  rw [turn, hr]
  rfl

section

variable {s : Service} {user : UserId} {after : List Turn} {token : IssuedToken} {e : Instant}

/-- The answer to a secret whose record nothing took away. -/
theorem Undisturbed.resolve_secret (hs : s.Idle) {seen : List UserId}
    (hseen : ∀ id, s.tables.users.contains id = true → id ∈ seen) {lifetime : Option Span}
    {id : TokenId} {secret : Secret}
    (h : (s.turn (.issueSecret user lifetime id secret)).Undisturbed user after)
    (hi : (run worker (Tokens.issueSecret s.clock user lifetime id secret) s).1 =
      some (.ok token)) (he : token.expiry = some e)
    (hu : (seen ++ after.filterMap Turn.user?).Nodup)
    (hd : secret.digest ∉ after.filterMap Turn.digest?) (d : Draws) :
    let s' := (s.turn (.issueSecret user lifetime id secret)).play after
    (s'.perform (.resolveToken token.text) d).1 =
      if s'.clock ≤ e then .ok user else .error .tokenInvalid := by
  intro s'
  rw [(hs.resolve_secret hseen hi hu hd d).2, he, h.unpurged]
  refine if_congr ⟨fun hc => (hc.2 e rfl).1, fun hc => ⟨h.registered, ?_⟩⟩ rfl rfl
  rintro e' he'
  cases he'
  exact ⟨hc, fun _ hpast => (nomatch hpast)⟩

/-- The answer to a signed token after its issue. -/
theorem Undisturbed.resolve_signed (hs : s.Idle) {lifetime : Span} {serial : Uuid}
    (h : (s.turn (.issueSigned user .access lifetime serial)).Undisturbed user after)
    (hi : (run worker (Tokens.issueSigned s.policy.tokens s.clock user .access lifetime serial)
      s).1 = some (.ok token)) (he : token.expiry = some e) (d : Draws) :
    let s' := (s.turn (.issueSigned user .access lifetime serial)).play after
    (s'.perform (.resolveToken token.text) d).1 =
      if s'.clock.seconds ≤ e.seconds then .ok user else .error .tokenInvalid := by
  intro s'
  obtain ⟨hx, hp, -⟩ := hs.turned (.issueSigned user .access lifetime serial)
  obtain ⟨hs', hp'⟩ := hx.play after
  obtain ⟨e', -, he', hr, -⟩ := Service.resolve_signed hs' (hp'.trans hp) hi d
  cases he.symm.trans he'
  have hlater := h.later
  rw [turn_issueSigned_clock] at hlater
  rw [hr]
  exact if_congr ⟨fun hc => hc.2.2.2,
    fun hc => ⟨rfl, h.registered, Instant.seconds_mono hlater, hc⟩⟩ rfl rfl

end

end Service

theorem Instant.eq_of_nanos {t u : Instant} (h : t.nanos = u.nanos) : t = u := by
  cases t
  cases u
  cases h
  rfl

/-- Comparing whole seconds agrees with comparing instants but after the one, within its second. -/
theorem Instant.answers_agree (t e : Instant) (user : UserId) :
    ((if t.seconds ≤ e.seconds then .ok user else .error .tokenInvalid : Except Refusal UserId) =
      if t ≤ e then .ok user else .error .tokenInvalid) ↔ ¬(e < t ∧ t.seconds = e.seconds) := by
  by_cases h : t ≤ e
  · rw [if_pos h, if_pos (seconds_mono h)]
    exact ⟨fun _ hc => Int.not_lt.2 h hc.1, fun _ => rfl⟩
  · have hlt : e < t := Int.not_le.1 h
    have hle := seconds_mono (Int.le_of_lt hlt : e ≤ t)
    rw [if_neg h]
    by_cases hs : t.seconds ≤ e.seconds
    · rw [if_pos hs]
      exact ⟨fun hc => (nomatch hc), fun hc => absurd ⟨hlt, Int.le_antisymm hs hle⟩ hc⟩
    · rw [if_neg hs]
      exact ⟨fun _ hc => hs (Int.le_of_eq hc.2), fun _ => rfl⟩

/-- While its user is registered and nothing is purged, a secret is accepted from its issue just up
to its expiry, and a signed token just up to the second of its expiry. Two that are issued at once
for the same lifetime are told apart only after the expiry, within its second. -/
theorem expiry_reported (policy : Policy) (timeoutMillis : Nat) (clock : Instant)
    (before after : List Turn) (user : UserId) (d : Draws) :
    let s := (Service.start policy timeoutMillis clock).play before
    (∀ lifetime id secret token e,
      Distinct (before ++ .issueSecret user lifetime id secret :: after) →
      (Service.run Service.worker (Tokens.issueSecret s.clock user lifetime id secret) s).1 =
        some (.ok token) → token.expiry = some e →
      let s₁ := s.turn (.issueSecret user lifetime id secret)
      let s' := s₁.play after
      s₁.Undisturbed user after →
      (s'.perform (.resolveToken token.text) d).1 =
        if s'.clock ≤ e then .ok user else .error .tokenInvalid) ∧
    (∀ lifetime serial token e,
      (Service.run Service.worker
        (Tokens.issueSigned policy.tokens s.clock user .access lifetime serial) s).1 =
          some (.ok token) → token.expiry = some e →
      let s₁ := s.turn (.issueSigned user .access lifetime serial)
      let s' := s₁.play after
      s₁.Undisturbed user after →
      (s'.perform (.resolveToken token.text) d).1 =
        if s'.clock.seconds ≤ e.seconds then .ok user else .error .tokenInvalid) ∧
    ∀ lifetime serial id secret signed token e,
      Distinct (before ++ [.issueSigned user .access lifetime serial] ++
        .issueSecret user (some lifetime) id secret :: after) →
      let s₁ := s.turn (.issueSigned user .access lifetime serial)
      (Service.run Service.worker
        (Tokens.issueSigned policy.tokens s.clock user .access lifetime serial) s).1 =
          some (.ok signed) →
      (Service.run Service.worker
        (Tokens.issueSecret s₁.clock user (some lifetime) id secret) s₁).1 = some (.ok token) →
      signed.expiry = some e →
      let s₂ := s₁.turn (.issueSecret user (some lifetime) id secret)
      let s' := s₂.play after
      s₂.Undisturbed user after →
      ((s'.perform (.resolveToken signed.text) d).1 =
        (s'.perform (.resolveToken token.text) d).1 ↔
          ¬(e < s'.clock ∧ s'.clock.seconds = e.seconds)) := by
  intro s
  obtain ⟨hs, hp⟩ := (Service.start_idle policy timeoutMillis clock).play before
  have hp : s.policy = policy := hp
  have hseen := Service.start_drawn policy timeoutMillis clock before
  refine ⟨fun lifetime id secret token e hd hi he h => ?_, ?_, ?_⟩
  · exact h.resolve_secret hs hseen hi he hd.of_issue.1 hd.of_issue.2 d
  · intro lifetime serial token e hi he s₁ s' h
    rw [← hp] at hi
    exact h.resolve_signed hs hi he d
  · intro lifetime serial id secret signed token e hd s₁ hi hi' he s₂ s' h
    obtain ⟨hs₁, -, -⟩ := Service.Idle.turned hs (.issueSigned user .access lifetime serial)
    have hplay : (Service.start policy timeoutMillis clock).play
        (before ++ [.issueSigned user .access lifetime serial]) = s₁ := Service.play_concat ..
    have hseen₁ := Service.start_drawn policy timeoutMillis clock
      (before ++ [.issueSigned user .access lifetime serial])
    rw [hplay] at hseen₁
    rw [← hp] at hi
    obtain ⟨hu, hd⟩ := hd.of_issue
    -- The second token has the expiry of the first.
    have hclock : s₁.clock = s.clock := s.turn_issueSigned_clock user .access lifetime serial
    obtain ⟨e₁, hn₁, he₁, -, -⟩ := Service.resolve_signed hs rfl hi d
    obtain ⟨hn₂, -⟩ := hs₁.resolve_secret hseen₁ hi' hu hd d
    obtain ⟨e₂, he₂, hn₂⟩ := Option.map_eq_some_iff.1 hn₂
    have hsame : e₂ = e₁ := Instant.eq_of_nanos (by rw [hn₁, hn₂, hclock])
    cases he.symm.trans he₁
    rw [hsame] at he₂
    have h₁ : s₁.Undisturbed user (.issueSecret user (some lifetime) id secret :: after) := by
      refine ⟨h.registered, h.unpurged, ?_⟩
      rw [← hs₁.turn_issueSecret_clock user (some lifetime) id secret]
      exact h.later
    have hsigned : (s'.perform (.resolveToken signed.text) d).1 =
        if s'.clock.seconds ≤ e.seconds then .ok user else .error .tokenInvalid :=
      h₁.resolve_signed hs hi he d
    have hsecret : (s'.perform (.resolveToken token.text) d).1 =
        if s'.clock ≤ e then .ok user else .error .tokenInvalid :=
      h.resolve_secret hs₁ hseen₁ hi' he₂ hu hd d
    rw [hsigned, hsecret]
    exact Instant.answers_agree _ e user

namespace Sample

def halfSecond : Span := ⟨500000000, by decide⟩

def half : Instant := ⟨500000000, by decide⟩

/-- Most of a second later. -/
def delay : List Turn := [.step (.setClock ⟨900000000, by decide⟩)]

def shortSecret : Secret := Vector.replicate 32 6

def shortToken : IssuedToken := ⟨shortSecret.text, .secret, some half⟩

def shortSigned : IssuedToken :=
  ⟨String.ofList (Signed.write openPolicy.tokens.key
    (Tokens.claims clock half member .access (uuid 7))), .signed, some half⟩

/-- The service after both tokens are issued. -/
def bothIssued : Service :=
  (registered.turn (.issueSigned member .access halfSecond (uuid 7))).turn
    (.issueSecret member (some halfSecond) ⟨uuid 6⟩ shortSecret)

end Sample

open Sample in
/-- Two tokens for half a second, presented after that within the second. -/
theorem expiry_reported_sample :
    ((bothIssued.play delay).perform (.resolveToken shortSigned.text) (draws 8)).1 ≠
        ((bothIssued.play delay).perform (.resolveToken shortToken.text) (draws 8)).1 ∧
      (((registered.turn (.issueSecret member (some halfSecond) ⟨uuid 6⟩ shortSecret)).play
        delay).perform (.resolveToken shortToken.text) (draws 8)).1 = .error .tokenInvalid ∧
      (((registered.turn (.issueSigned member .access halfSecond (uuid 7))).play delay).perform
        (.resolveToken shortSigned.text) (draws 8)).1 = .ok member := by
  have hsigned : (Service.run Service.worker (Tokens.issueSigned openPolicy.tokens registered.clock
      member .access halfSecond (uuid 7)) registered).1 = some (.ok shortSigned) := rfl
  obtain ⟨hone, htwo, hboth⟩ := expiry_reported openPolicy 5000 clock [registration] delay member
    (draws 8)
  refine ⟨fun he => ?_, ?_, ?_⟩
  · have hsecret : (Service.run Service.worker (Tokens.issueSecret
        (registered.turn (.issueSigned member .access halfSecond (uuid 7))).clock member
          (some halfSecond) ⟨uuid 6⟩ shortSecret)
        (registered.turn (.issueSigned member .access halfSecond (uuid 7)))).1 =
          some (.ok shortToken) := rfl
    have hlate : half < (bothIssued.play delay).clock ∧
        (bothIssued.play delay).clock.seconds = half.seconds := by decide +kernel
    exact (hboth halfSecond (uuid 7) ⟨uuid 6⟩ shortSecret shortSigned shortToken half
      ⟨List.nodup_cons.2 ⟨List.not_mem_nil, .nil⟩, List.nodup_cons.2 ⟨List.not_mem_nil, .nil⟩⟩
      hsigned hsecret rfl ⟨by decide +kernel, rfl, by decide +kernel⟩).1 he hlate
  · have hsecret : (Service.run Service.worker (Tokens.issueSecret registered.clock member
        (some halfSecond) ⟨uuid 6⟩ shortSecret) registered).1 = some (.ok shortToken) := rfl
    exact (hone (some halfSecond) ⟨uuid 6⟩ shortSecret shortToken half
      ⟨List.nodup_cons.2 ⟨List.not_mem_nil, .nil⟩, List.nodup_cons.2 ⟨List.not_mem_nil, .nil⟩⟩
      hsecret rfl ⟨by decide +kernel, rfl, by decide +kernel⟩).trans (if_neg (by decide +kernel))
  · exact (htwo halfSecond (uuid 7) shortSigned half hsigned rfl
      ⟨by decide +kernel, rfl, by decide +kernel⟩).trans (if_pos (by decide +kernel))

open Sample in
/-- A signed token for half a second is accepted four tenths of a second after its expiry. -/
theorem signed_outlives_expiry :
    (Service.run Service.worker (Tokens.issueSigned openPolicy.tokens registered.clock member
      .access halfSecond (uuid 7)) registered).1 = some (.ok shortSigned) ∧
      shortSigned.expiry = some half ∧
      (registered.turn (.issueSigned member .access halfSecond (uuid 7))).Undisturbed member
        delay ∧
      ¬((registered.turn (.issueSigned member .access halfSecond (uuid 7))).play delay).clock ≤
        half ∧
      (((registered.turn (.issueSigned member .access halfSecond (uuid 7))).play delay).perform
        (.resolveToken shortSigned.text) (draws 8)).1 = .ok member := by
  have hsigned : (Service.run Service.worker (Tokens.issueSigned openPolicy.tokens registered.clock
      member .access halfSecond (uuid 7)) registered).1 = some (.ok shortSigned) := rfl
  have hund : (registered.turn (.issueSigned member .access halfSecond (uuid 7))).Undisturbed
      member delay := ⟨by decide +kernel, rfl, by decide +kernel⟩
  have hs := ((Service.start_idle openPolicy 5000 clock).play [registration]).1
  refine ⟨hsigned, rfl, hund, by decide +kernel, ?_⟩
  exact (hund.resolve_signed hs hsigned rfl (draws 8)).trans (if_pos (by decide +kernel))

end GroupAccess
