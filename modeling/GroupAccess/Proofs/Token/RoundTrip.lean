import GroupAccess.Proofs.Token.Issue

namespace GroupAccess

/-- What is issued in any state, however it was reached, when no transaction is open. After any turns,
and at any clock, a secret names its user just when the user is registered and the expiry, if it has
one, is before neither the clock nor any purge since. A signed token does so just when the user is
registered and the clock is, in whole seconds, between issue and expiry; it is for resolving or for
refreshing only, and a refresh answers as the issue of an access token at the clock does. Every other
answer is that the token is invalid. -/
theorem token_round_trip (s : Service) (hs : s.Idle) (after : List Turn) (user : UserId)
    (token : IssuedToken) (d : Draws) :
    (∀ lifetime id secret, Distinct (.issueSecret user lifetime id secret :: after) →
      (∀ new ∈ after.filterMap Turn.user?, s.tables.users.contains new = false) →
      (Service.run Service.worker (Tokens.issueSecret s.clock user lifetime id secret) s).1 =
        some (.ok token) →
      let s₁ := s.turn (.issueSecret user lifetime id secret)
      let s' := s₁.play after
      token.expiry.map Instant.nanos = (lifetime.map fun l => s.clock.nanos + l.nanos) ∧
      (s'.perform (.resolveToken token.text) d).1 =
        if s'.tables.users.contains user = true ∧
          ∀ e ∈ token.expiry, s'.clock ≤ e ∧ ∀ past ∈ s₁.purgesOf after, past ≤ e
        then .ok user else .error .tokenInvalid) ∧
    ∀ audience lifetime serial,
      (Service.run Service.worker
        (Tokens.issueSigned s.policy.tokens s.clock user audience lifetime serial) s).1 =
          some (.ok token) →
      let s' := (s.turn (.issueSigned user audience lifetime serial)).play after
      ∃ e, token.expiry = some e ∧ e.nanos = s.clock.nanos + lifetime.nanos ∧
        (s'.perform (.resolveToken token.text) d).1 =
          (if audience = .access ∧ s'.Within user s.clock.seconds e.seconds then .ok user
          else .error .tokenInvalid) ∧
        (s'.perform (.refresh token.text) d).1 =
          if audience = .refresh ∧ s'.Within user s.clock.seconds e.seconds then
            Tokens.signed s.policy.tokens s'.clock user .access s.policy.tokens.accessLifetime
              d.serial
          else .error .tokenInvalid := by
  refine ⟨fun lifetime id secret hd hnew hi => ?_, fun audience lifetime serial hi => ?_⟩
  · have hd : Distinct ([] ++ .issueSecret user lifetime id secret :: after) := hd
    have hdistinct := hd.of_issue
    refine hs.resolve_secret (fun _ => Table.contains_iff.1) hi ?_ hdistinct.2 d
    refine List.nodup_append.2 ⟨s.tables.users.nodup, hdistinct.1, ?_⟩
    rintro id hid new hmem rfl
    cases (Table.contains_iff.2 hid).symm.trans (hnew id hmem)
  · obtain ⟨hx, hpx, -⟩ := Service.Idle.turned hs (.issueSigned user audience lifetime serial)
    obtain ⟨hs', hp'⟩ := hx.play after
    obtain ⟨e, he, hexpiry, hresolve, hrefresh⟩ :=
      Service.resolve_signed hs' (hp'.trans hpx) hi d
    exact ⟨e, hexpiry, he, hresolve, hrefresh⟩

namespace Sample

def secret : Secret := Vector.replicate 32 2

def tenSeconds : Span := ⟨10000000000, by decide⟩

/-- Five seconds later expired tokens are purged. -/
def pause : List Turn :=
  [.step (.setClock ⟨5000000000, by decide⟩), .step (.perform .purgeTokens (draws 3))]

def tenth : Instant := ⟨10000000000, by decide⟩

def secretToken : IssuedToken := ⟨secret.text, .secret, some tenth⟩

def signedToken (audience : Audience) : IssuedToken :=
  ⟨String.ofList (Signed.write openPolicy.tokens.key
    (Tokens.claims clock tenth member audience (uuid 4))), .signed, some tenth⟩

end Sample

open Sample in
theorem token_round_trip_sample :
    registered.Idle ∧
      Distinct (.issueSecret member (some tenSeconds) ⟨uuid 2⟩ secret :: pause) ∧
      (Service.run Service.worker
        (Tokens.issueSecret registered.clock member (some tenSeconds) ⟨uuid 2⟩ secret)
          registered).1 = some (.ok secretToken) ∧
      (((registered.turn (.issueSecret member (some tenSeconds) ⟨uuid 2⟩ secret)).play
        pause).perform (.resolveToken secretToken.text) (draws 5)).1 = .ok member ∧
      (Service.run Service.worker (Tokens.issueSigned registered.policy.tokens registered.clock
        member .refresh tenSeconds (uuid 4)) registered).1 = some (.ok (signedToken .refresh)) ∧
      (((registered.turn (.issueSigned member .refresh tenSeconds (uuid 4))).play
        pause).perform (.resolveToken (signedToken .refresh).text) (draws 5)).1 =
          .error .tokenInvalid ∧
      ∃ a, (((registered.turn (.issueSigned member .refresh tenSeconds (uuid 4))).play
        pause).perform (.refresh (signedToken .refresh).text) (draws 5)).1 = .ok a := by
  have hidle : registered.Idle :=
    ((Service.start_idle openPolicy 5000 clock).play [registration]).1
  have hdistinct : Distinct (.issueSecret member (some tenSeconds) ⟨uuid 2⟩ secret :: pause) :=
    ⟨.nil, List.nodup_cons.2 ⟨List.not_mem_nil, .nil⟩⟩
  have hsecret : (Service.run Service.worker
      (Tokens.issueSecret registered.clock member (some tenSeconds) ⟨uuid 2⟩ secret)
        registered).1 = some (.ok secretToken) := rfl
  have hsigned : (Service.run Service.worker (Tokens.issueSigned registered.policy.tokens
      registered.clock member .refresh tenSeconds (uuid 4)) registered).1 =
        some (.ok (signedToken .refresh)) := rfl
  have hgood : ((registered.turn (.issueSecret member (some tenSeconds) ⟨uuid 2⟩ secret)).play
      pause).tables.users.contains member = true := by decide +kernel
  have htime : ((registered.turn (.issueSecret member (some tenSeconds) ⟨uuid 2⟩ secret)).play
      pause).clock ≤ tenth ∧ ∀ past ∈ (registered.turn (.issueSecret member (some tenSeconds)
        ⟨uuid 2⟩ secret)).purgesOf pause, past ≤ tenth := by decide +kernel
  have hwithin : ((registered.turn (.issueSigned member .refresh tenSeconds (uuid 4))).play
      pause).Within member registered.clock.seconds tenth.seconds := by decide +kernel
  obtain ⟨-, hresolve⟩ := (token_round_trip registered hidle pause member secretToken
    (draws 5)).1 (some tenSeconds) ⟨uuid 2⟩ secret hdistinct
      (fun _ hnew => absurd hnew List.not_mem_nil) hsecret
  obtain ⟨e, he, -, hother, hrefresh⟩ := (token_round_trip registered hidle pause member
    (signedToken .refresh) (draws 5)).2 .refresh tenSeconds (uuid 4) hsigned
  cases he
  refine ⟨hidle, hdistinct, hsecret, ?_, hsigned, ?_, ?_⟩
  · refine hresolve.trans (if_pos ⟨hgood, fun e he => ?_⟩)
    cases he
    exact htime
  · exact hother.trans (if_neg fun h => nomatch h.1)
  · exact ⟨_, hrefresh.trans (if_pos ⟨rfl, hwithin⟩)⟩

namespace Sample

/-- A hundred seconds before the last instant, so that no access token can be issued any more. -/
def late : Instant := ⟨8210266876700000000000, by decide⟩

def lateService : Service := (Service.start openPolicy 5000 late).play [registration]

def lateExpiry : Instant := ⟨8210266876710000000000, by decide⟩

def lateToken : IssuedToken :=
  ⟨String.ofList (Signed.write openPolicy.tokens.key
    (Tokens.claims late lateExpiry member .refresh (uuid 4))), .signed, some lateExpiry⟩

end Sample

open Sample in
/-- A refresh token that is in time, of a registered user, is not always refreshed. -/
theorem refresh_out_of_range :
    (Service.run Service.worker (Tokens.issueSigned openPolicy.tokens lateService.clock member
      .refresh tenSeconds (uuid 4)) lateService).1 = some (.ok lateToken) ∧
      lateToken.expiry = some lateExpiry ∧
      (lateService.turn (.issueSigned member .refresh tenSeconds (uuid 4))).Within member
        lateService.clock.seconds lateExpiry.seconds ∧
      ((lateService.turn (.issueSigned member .refresh tenSeconds (uuid 4))).perform
        (.refresh lateToken.text) (draws 5)).1 =
          .error (.internal "token lifetime PT900S out of range") := by
  have hissued : (Service.run Service.worker (Tokens.issueSigned openPolicy.tokens
      lateService.clock member .refresh tenSeconds (uuid 4)) lateService).1 =
        some (.ok lateToken) := rfl
  have hwithin : (lateService.turn (.issueSigned member .refresh tenSeconds (uuid 4))).Within
      member lateService.clock.seconds lateExpiry.seconds := by decide +kernel
  refine ⟨hissued, rfl, hwithin, ?_⟩
  have hi := ((Service.start_idle openPolicy 5000 late).play
    ([registration] ++ [.issueSigned member .refresh tenSeconds (uuid 4)])).1
  rw [Service.play_concat] at hi
  obtain ⟨e, -, he, -, hrefresh⟩ :=
    Service.resolve_signed (s := lateService) hi rfl hissued (draws 5)
  cases he
  exact hrefresh.trans (if_pos ⟨rfl, hwithin⟩)

end GroupAccess
