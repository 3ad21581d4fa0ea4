import GroupAccess.Proofs.Operation.Outcome
import GroupAccess.Proofs.Token.Text

namespace GroupAccess

/-- The user that a presented token names at an instant. A secret is good for access only. -/
def Tables.named? (t : Tables) (policy : TokenPolicy) (now : Instant) (audience : Audience) :
    Presented → Option UserId
  | .signed header claims signature =>
    Tokens.acceptSigned policy now audience header claims signature
  | .secret s =>
    match audience with
    | .access => ((t.tokens.get? s.digest).filter fun r => !r.isExpired now).map SecretRecord.user
    | .refresh => none

/-- The registered user whose token a text is. -/
def Tables.bearer? (t : Tables) (policy : TokenPolicy) (now : Instant) (audience : Audience)
    (text : String) : Option UserId :=
  ((Presented.ofText? text).bind (t.named? policy now audience)).filter t.users.contains

namespace Tokens

/-- A text without a bearer is an invalid token. -/
def answer (bearer : Option UserId) : Except Refusal UserId :=
  bearer.elim (.error .tokenInvalid) .ok

/-- The answer to a refresh: a new access token for the bearer. -/
def renewed (policy : TokenPolicy) (now : Instant) (serial : Uuid) (bearer : Option UserId) :
    Except Refusal IssuedToken :=
  bearer.elim (.error .tokenInvalid) fun user =>
    signed policy now user .access policy.accessLifetime serial

end Tokens

namespace Service

open Program

variable {s : Service} {k : Agent}

namespace Idle

theorem run_whileRegistered (h : s.Idle) (user : UserId) :
    run k (Tokens.whileRegistered user) s =
      (some (Tokens.answer (Option.filter s.tables.users.contains (some user))), s) := by
  have hr : run k (ask (.userExists user)) s = (some (.ok (s.tables.users.contains user)), s) :=
    h.run_ask (h.read _)
  rw [Tokens.whileRegistered, bind_eq, run_bind_ok hr, Option.filter_some]
  cases s.tables.users.contains user <;> rfl

theorem run_require {α : Type} (e : Refusal) (a : Option α) :
    run k (Program.require e a) s = (some (a.elim (.error e) .ok), s) := by
  cases a <;> rfl

/-- What follows the reading of a text: it names a user, who has to be registered. -/
theorem run_named (h : s.Idle) {p : Program UserId} {named : Option UserId}
    (hp : run k p s = (some (Tokens.answer named), s)) :
    run k (p.bind Tokens.whileRegistered) s =
      (some (Tokens.answer (named.filter s.tables.users.contains)), s) := by
  cases named with
  | none => exact run_bind_error hp
  | some user => rw [run_bind_ok hp, h.run_whileRegistered]

theorem run_resolveSecret (h : s.Idle) (policy : TokenPolicy) (now : Instant) (secret : Secret) :
    run k (Tokens.resolveSecret now secret) s =
      (some (Tokens.answer (s.tables.named? policy now .access (.secret secret))), s) := by
  have hr : run k (ask (.findToken secret.digest)) s =
      (some (.ok (s.tables.tokens.get? secret.digest)), s) := h.run_ask (h.read _)
  simp only [Tokens.resolveSecret, bind_eq, run_bind_ok hr, Tables.named?]
  cases s.tables.tokens.get? secret.digest with
  | none => rfl
  | some r =>
    simp only [require, bind_ok, Option.filter_some]
    cases r.isExpired now <;> rfl

theorem run_resolve (h : s.Idle) (policy : TokenPolicy) (now : Instant) (text : String) :
    run k (Tokens.resolve policy now text) s =
      (some (Tokens.answer (s.tables.bearer? policy now .access text)), s) := by
  simp only [Tokens.resolve, Tables.bearer?, bind_eq]
  cases Presented.ofText? text with
  | none => rfl
  | some presented =>
    simp only [require, bind_ok, Option.bind_some]
    cases presented with
    | signed header claims signature => exact h.run_named (run_require _ _)
    | secret secret => exact h.run_named (h.run_resolveSecret policy now secret)

theorem run_refresh (h : s.Idle) (policy : TokenPolicy) (now : Instant) (text : String)
    (serial : Uuid) :
    ∃ c, run k (Tokens.refresh policy now text serial) s =
      (some (Tokens.renewed policy now serial (s.tables.bearer? policy now .refresh text)),
        s.leaving s.tables c) := by
  simp only [Tokens.refresh, Tables.bearer?, bind_eq]
  cases Presented.ofText? text with
  | none => exact ⟨s.counters, rfl⟩
  | some presented =>
    simp only [require, bind_ok, Option.bind_some]
    cases presented with
    | secret secret => exact ⟨s.counters, rfl⟩
    | signed header claims signature =>
      simp only [Tables.named?]
      cases Tokens.acceptSigned policy now .refresh header claims signature with
      | none => exact ⟨s.counters, rfl⟩
      | some user =>
        have hw := h.run_whileRegistered (k := k) user
        rw [Option.filter_some] at hw ⊢
        simp only [bind_ok]
        cases hu : s.tables.users.contains user with
        | false =>
          rw [hu] at hw
          exact ⟨s.counters, run_bind_error hw⟩
        | true =>
          rw [hu] at hw
          obtain ⟨c, hi⟩ := s.run_issueSigned (k := k) policy now user .access
            policy.accessLifetime serial
          exact ⟨c, (run_bind_ok hw).trans hi⟩

/-- A rejection is counted and goes on. -/
theorem run_countingAuth {α : Type} {p : Program α} {r : Except Refusal α} {s' : Service}
    (hp : run k p s = (some r, s')) :
    ∃ c, run k (Operation.countingAuth p) s = (some r, s'.leaving s'.tables c) := by
  cases r with
  | ok a => exact ⟨s'.counters, run_catching_ok hp⟩
  | error e => exact ⟨_, run_catching_error hp⟩

theorem perform_resolveToken (h : s.Idle) (text : String) (d : Draws) :
    (s.perform (.resolveToken text) d).1 =
      Tokens.answer (s.tables.bearer? s.policy.tokens s.clock .access text) := by
  obtain ⟨c, hr⟩ := run_countingAuth (h.run_resolve (k := worker) s.policy.tokens s.clock text)
  rw [perform_eq (o := .resolveToken text) (d := d) hr]

theorem perform_refresh (h : s.Idle) (text : String) (d : Draws) :
    (s.perform (.refresh text) d).1 = Tokens.renewed s.policy.tokens s.clock d.serial
      (s.tables.bearer? s.policy.tokens s.clock .refresh text) := by
  obtain ⟨c, hr⟩ := h.run_refresh (k := worker) s.policy.tokens s.clock text d.serial
  obtain ⟨c', hr⟩ := run_countingAuth hr
  rw [perform_eq (o := .refresh text) (d := d) hr]

end Idle

end Service

namespace Instant

theorem fdiv_nanosPerSecond (n : Int) : n.fdiv nanosPerSecond = n / 1000000000 :=
  Int.fdiv_eq_ediv_of_nonneg n (by decide)

theorem seconds_mono {t u : Instant} (h : t ≤ u) : t.seconds ≤ u.seconds := by
  have h : t.nanos ≤ u.nanos := h
  rw [seconds, seconds, fdiv_nanosPerSecond, fdiv_nanosPerSecond]
  omega

/-- The seconds of an instant fit the times of claims. -/
theorem seconds_bounded (t : Instant) : Claims.timeBounds.contains t.seconds = true := by
  have hl : Claims.timeBounds.low = -9223372036854775808 := rfl
  have hh : Claims.timeBounds.high = 9223372036854775807 := rfl
  have ht := t.bounded
  rw [Decimal.Bounds.contains, Bool.and_eq_true, decide_eq_true_iff, decide_eq_true_iff, hl, hh,
    seconds, fdiv_nanosPerSecond]
  omega

end Instant

namespace Tables

variable (t : Tables) (policy : TokenPolicy) (now : Instant)

/-- The bearer of a secret is told by the record of it. -/
theorem bearer?_secret (s : Secret) :
    t.bearer? policy now .access s.text =
      (((t.tokens.get? s.digest).filter fun r => !r.isExpired now).map
        SecretRecord.user).filter t.users.contains := by
  rw [bearer?, Presented.ofText?_secret, Option.bind_some, named?]

/-- The bearer of a signed token is the user that it was written for, between the seconds of its
issue and of its expiry. -/
theorem bearer?_write (issued expiry : Instant) (user : UserId) (a b : Audience) (serial : Uuid) :
    t.bearer? policy now a
        (String.ofList (Signed.write policy.key (Tokens.claims issued expiry user b serial))) =
      if b = a ∧ t.users.contains user = true ∧ issued.seconds ≤ now.seconds ∧
        now.seconds ≤ expiry.seconds then some user else none := by
  have hc : (Tokens.claims issued expiry user b serial).Bounded :=
    ⟨issued.seconds_bounded, issued.seconds_bounded, expiry.seconds_bounded⟩
  have hs : Uuid.ofText? user.uuid.text = some user.uuid := user.uuid.ofText?_text
  rw [bearer?, Presented.ofText?_write, Option.bind_some, named?, Tokens.acceptSigned,
    Signed.open?_write policy.key hc, Option.bind_some, Tokens.accept]
  simp only [Tokens.claims, hs, Option.map_some]
  split
  · rename_i hw
    rw [Option.filter_some]
    cases t.users.contains user with
    | true => exact (if_pos ⟨hw.2.2, rfl, hw.1, hw.2.1⟩).symm
    | false => exact (if_neg fun h => Bool.false_ne_true h.2.1).symm
  · rename_i hw
    exact (if_neg fun h => hw ⟨h.2.2.1, h.2.2.2, h.1⟩).symm

end Tables

end GroupAccess
