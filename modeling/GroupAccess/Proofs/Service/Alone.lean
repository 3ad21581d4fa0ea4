import GroupAccess.Proofs.Operation.Effect
import GroupAccess.Proofs.Program.Redemption
import GroupAccess.Proofs.Service.Idle
import GroupAccess.Proofs.Store.Holding

namespace GroupAccess.Service

open Program

variable {s : Service} {k : Agent}

theorem run_issueSigned (policy : TokenPolicy) (now : Instant) (user : UserId)
    (audience : Audience) (lifetime : Span) (serial : Uuid) :
    ∃ c, run k (Tokens.issueSigned policy now user audience lifetime serial) s =
      (some (Tokens.signed policy now user audience lifetime serial), s.leaving s.tables c) := by
  simp only [Tokens.issueSigned, Tokens.signed, bind_eq]
  cases Tokens.expiryAfter now lifetime with
  | error e => exact ⟨s.counters, rfl⟩
  | ok expiry => exact ⟨_, rfl⟩

namespace Idle

theorem run_resolveRole (h : s.Idle) (user : UserId) (group : GroupId) :
    run k (Groups.resolveRole user group) s = (some (s.tables.roleOf user group), s) := by
  have hm : run k (ask (.findMembership user group)) s =
      (some (.ok (s.tables.memberships.get? (user, group))), s) := h.run_ask (h.read _)
  simp only [Groups.resolveRole, bind_eq, run_bind_ok hm, Tables.roleOf]
  cases s.tables.memberships.get? (user, group) with
  | none => rfl
  | some m =>
    have hr : run k (ask (.findRole m.role)) s =
        (some (.ok (s.tables.roles.get? m.role)), s) := h.run_ask (h.read _)
    simp only [Program.require, bind_ok, run_bind_ok hr]
    cases s.tables.roles.get? m.role with
    | none => rfl
    | some stored => rfl

theorem run_register (h : s.Idle) (policy : PasswordPolicy) (now : Instant) (email : String)
    (password : Password) (id : UserId) (salt : Password.Salt) :
    run k (Accounts.register policy now email password id salt) s =
      (some (s.tables.registered policy now email password id salt).1,
        s.put (s.tables.registered policy now email password id salt).2) := by
  rw [Accounts.register_eq, Tables.registered]
  cases Email.isValid (Email.normalize email) with
  | false => rfl
  | true =>
    have hf : run k (ask (.findUserByEmail (Email.normalize email))) s =
        (some (.ok (s.tables.findUserByEmail (Email.normalize email))), s) :=
      h.run_ask (h.read _)
    simp only [if_true, run_bind_ok hf]
    cases hu : (s.tables.findUserByEmail (Email.normalize email)).isSome with
    | true => rfl
    | false =>
      cases password.checkStrength policy.minEntropy with
      | error e => rfl
      | ok _ =>
        cases password.hash policy.serverSecret policy.maxBytes salt with
        | error e => rfl
        | ok hash =>
          let user : User := ⟨id, Email.normalize email, hash, now⟩
          have hc : s.tables.createUser user =
              .ok { s.tables with users := s.tables.users.insert id user } := by
            simp [Tables.createUser, user, hu]
          exact run_bind_ok (h.run_ask (c := .createUser user) (h.write_ok hc))

theorem run_groupFounded (h : s.Idle) (now : Instant) (owner : UserId) (name : String)
    (description : Option String) (id : GroupId) (fresh : RoleId) :
    run k (Groups.create now owner name description id fresh) s =
      (some (s.tables.groupFounded now owner name description id fresh).1,
        s.put (s.tables.groupFounded now owner name description id fresh).2) := by
  rw [Groups.create_eq, Tables.groupFounded]
  cases (Text.trim name).isEmpty with
  | true => rfl
  | false =>
    have hr : run k (ask (.createRole .full fresh)) s =
        (some (.ok (s.tables.createRole .full fresh).1),
          s.put (s.tables.createRole .full fresh).2) :=
      h.run_ask (h.atomic fun t => (.ok (t.createRole .full fresh).1, (t.createRole .full fresh).2))
    simp only [Bool.false_eq_true, if_false, run_bind_ok hr]
    generalize s.tables.createRole .full fresh = interned
    obtain ⟨role, t⟩ := interned
    let group : Group := ⟨id, Text.trim name, description.getD "", owner, now⟩
    let first : Membership := .owner owner id role
    have ht := h.put t
    cases hc : t.createGroup group first with
    | error e =>
      cases Tables.createGroup_conflict hc
      exact run_bind_error (ht.run_ask_error (c := .createGroup group first) (ht.write_error hc))
    | ok t' => exact run_bind_ok (ht.run_ask (c := .createGroup group first) (ht.write_ok hc))

theorem run_invited (h : s.Idle) (actor : UserId) (group : GroupId) (role : Role) (uses : Int)
    (id : InviteId) (fresh : RoleId) :
    run k (Invites.create actor group role uses id fresh) s =
      (some (s.tables.invited actor group role uses id fresh).1,
        s.put (s.tables.invited actor group role uses id fresh).2) := by
  rw [Invites.create_eq, Tables.invited]
  by_cases hu : uses ≤ 0
  · simp only [if_pos hu]
    rfl
  have hg : run k (ask (.findGroup group)) s =
      (some (.ok (s.tables.groups.get? group)), s) := h.run_ask (h.read _)
  simp only [if_neg hu, run_bind_ok hg]
  cases (s.tables.groups.get? group).isNone with
  | true => rfl
  | false =>
    have hown := h.run_resolveRole (k := k) actor group
    cases hr : s.tables.roleOf actor group with
    | error e =>
      rw [hr] at hown
      exact run_bind_error (run_catching_error hown)
    | ok own =>
      rw [hr] at hown
      simp only [Bool.false_eq_true, if_false, run_bind_ok (run_catching_ok hown)]
      by_cases hm : own.allows .manageMembers = true
      · by_cases hc : own.covers role = true
        · simp only [if_pos hm, if_pos hc]
          have hr := h.atomic fun t =>
            (.ok (t.createRole role fresh).1, (t.createRole role fresh).2)
          rw [run_bind_ok (h.run_ask (c := .createRole role fresh) hr)]
          let invite : Invite := ⟨id, group, (s.tables.createRole role fresh).1, uses, actor⟩
          have ht := h.put (s.tables.createRole role fresh).2
          have hi := ht.write_ok (f := fun t => .ok (t.createInvite invite)) rfl
          exact run_bind_ok (ht.run_ask (c := .createInvite invite) hi)
        · simp only [if_pos hm, if_neg hc]
          rfl
      · simp only [if_neg hm]
        rfl

theorem run_authenticate (h : s.Idle) (policy : PasswordPolicy) (email : String)
    (password : Password) :
    ∃ c, run k (Accounts.authenticate policy email password) s =
      (some (match s.tables.authenticated policy email password with
        | some user => .ok user
        | none => .error .badCredentials), s.leaving s.tables c) := by
  have hf : run k (ask (.findUserByEmail (Email.normalize email))) s =
      (some (.ok (s.tables.findUserByEmail (Email.normalize email))), s) := h.run_ask (h.read _)
  simp only [Accounts.authenticate, bind_eq, run_bind_ok hf, Tables.authenticated]
  cases s.tables.findUserByEmail (Email.normalize email) with
  | none => exact ⟨_, rfl⟩
  | some user =>
    simp only [Option.filter]
    by_cases hv : password.verify user.passwordHash policy.serverSecret = true
    · simp only [if_pos hv]
      exact ⟨_, rfl⟩
    · simp only [if_neg hv]
      exact ⟨_, rfl⟩

theorem run_issueSecret (h : s.Idle) (now : Instant) (user : UserId) (lifetime : Option Span)
    (id : TokenId) (secret : Secret) :
    ∃ c, run k (Tokens.issueSecret now user lifetime id secret) s =
      (some (s.tables.secretIssued s.store.failsTokenWrites now user lifetime id secret).1,
        s.leaving (s.tables.secretIssued s.store.failsTokenWrites now user lifetime id secret).2
          c) := by
  simp only [Tokens.issueSecret, bind_eq, Tables.secretIssued]
  cases lifetime.mapM (Tokens.expiryAfter now) with
  | error e => exact ⟨s.counters, rfl⟩
  | ok expiry =>
    simp only [lift, bind_ok]
    let r : SecretRecord := ⟨id, user, secret.digest, expiry, now⟩
    cases hf : s.store.failsTokenWrites with
    | true =>
      have hc : s.store.call k (.createToken r) =
          some (.error (.database "injected token write failure"), s.store) := by
        rw [Store.call, hf]
        rfl
      exact ⟨s.counters, run_bind_error (h.run_ask_error hc)⟩
    | false =>
      have hs : s.store.call k (.createToken r) = s.store.write fun t => t.createToken r := by
        rw [Store.call, hf]
        rfl
      cases hn : s.tables.tokens.contains secret.digest with
      | true =>
        have hc : s.tables.createToken r = .error (.conflict "opaque_tokens_secret_hash_key") :=
          if_pos hn
        exact ⟨s.counters, run_bind_error (h.run_ask_error (hs.trans (h.write_error hc)))⟩
      | false =>
        have hc : s.tables.createToken r =
            .ok { s.tables with tokens := s.tables.tokens.insert r.digest r } :=
          if_neg (Bool.eq_false_iff.1 hn)
        exact ⟨_, run_bind_ok (h.run_ask (hs.trans (h.write_ok hc)))⟩

/-- A token of a known kind, for the account of the address and the password. -/
theorem run_issueToken (h : s.Idle) {kind : String} {known : TokenKind}
    (hk : TokenKind.ofText? kind = some known) (policy : Policy) (now : Instant) (email : String)
    (password : Password) (d : Draws) :
    ∃ c, run k ((Operation.issueToken email password kind).program policy now d) s =
      match s.tables.authenticated policy.passwords email password with
      | some user =>
        let issued := s.tables.issued s.store.failsTokenWrites policy.tokens now user.id d known
        (some issued.1, s.leaving issued.2 c)
      | none => (some (.error .badCredentials), s.leaving s.tables c) := by
  have hp : (Operation.issueToken email password kind).program policy now d = _ :=
    Accounts.issueToken_eq hk ..
  obtain ⟨c, ha⟩ := h.run_authenticate (k := k) policy.passwords email password
  rw [hp]
  cases hu : s.tables.authenticated policy.passwords email password with
  | none =>
    rw [hu] at ha
    exact ⟨c, run_bind_error ha⟩
  | some user =>
    rw [hu] at ha
    have hs := h.leaving s.tables c
    cases known with
    | signed =>
      obtain ⟨c', hr⟩ := (s.leaving s.tables c).run_issueSigned (k := k) policy.tokens now user.id
        .access policy.tokens.accessLifetime d.serial
      exact ⟨c', (run_bind_ok ha).trans hr⟩
    | secret =>
      obtain ⟨c', hr⟩ := hs.run_issueSecret (k := k) now user.id
        (some policy.tokens.secretLifetime) d.token d.secret
      exact ⟨c', (run_bind_ok ha).trans hr⟩

/-- A user is deleted if it is registered. -/
theorem run_deleteUser (h : s.Idle) (user : UserId) :
    run k (.ask (.deleteUser user)) s = (some (.ok (s.tables.users.contains user)),
      s.put (if s.tables.users.contains user then s.tables.deleteUser user else s.tables)) := by
  have hw := h.atomic fun t =>
    if t.users.contains user then (.ok true, t.deleteUser user) else (.ok false, t)
  cases hu : s.tables.users.contains user with
  | true =>
    simp only [hu, if_true] at hw
    exact h.run_ask hw
  | false =>
    simp only [hu, Bool.false_eq_true, if_false] at hw
    exact h.run_ask hw

theorem hold_decrement (h : s.Idle) {x : Transaction} {t u : Tables} {invite : InviteId}
    {grant : Grant} (hd : t.decrement invite = .ok (grant, u)) :
    (s.hold k x t).call k (.decrement invite) =
      some (.ok grant, s.hold k { x with undo := .decrement invite :: x.undo } u) :=
  h.hold_call (Store.call_decrement (s := (s.hold k x t).store) rfl hd)

theorem hold_insertMembership (h : s.Idle) {x : Transaction} {t u : Tables} {m : Membership}
    (hm : t.insertMembership m = .ok u) :
    (s.hold k x t).call k (.insertMembership m) =
      some (.ok (), s.hold k { x with undo := .membership m.key :: x.undo } u) :=
  h.hold_call (Store.call_insertMembership (s := (s.hold k x t).store) rfl hm)

theorem run_refused (h : s.Idle) (x : Transaction) (t : Tables) (e : Refusal) :
    ∃ c, run k (Invites.refused e) (s.hold k x t) =
      (some (.error e), s.leaving (x.rollback t) c) := by
  have hr : (s.hold k x t).call k .rollback = some (.ok (), s.put (x.rollback t)) := by
    rw [← h.release]
    exact h.hold_call (Store.call_rollback rfl)
  rw [Invites.refused, run_call hr]
  exact ⟨_, rfl⟩

theorem run_entered (h : s.Idle) (x : Transaction) (t : Tables) (m : Membership) :
    ∃ c, run k (Invites.entered m) (s.hold k x t) =
      (some ((x.commit t).1.mapError Invites.commitRefusal |>.map fun _ => m),
        s.leaving (x.commit t).2 c) := by
  have hc : (s.hold k x t).call k .commit = some ((x.commit t).1, s.put (x.commit t).2) := by
    rw [← h.release]
    exact h.hold_call (Store.call_commit rfl)
  rw [Invites.entered, run_call hc]
  cases (x.commit t).1 with
  | ok _ => exact ⟨_, rfl⟩
  | error e => exact ⟨_, rfl⟩

theorem run_redeemed (h : s.Idle) (invite : InviteId) (user : UserId) :
    ∃ c, run k (Invites.redeem invite user) s =
      (some (s.tables.redeemed s.store.failsCommits invite user).1,
        s.leaving (s.tables.redeemed s.store.failsCommits invite user).2 c) := by
  have hb : s.call k .begin = some (.ok (), s.hold k ⟨[], s.store.failsCommits⟩ s.tables) :=
    call_of_store h.plan (Store.call_begin h.held)
  rw [Invites.redeem_eq, run_call hb]
  simp only [Invites.begun, Invites.opened]
  generalize s.store.failsCommits = fails
  cases hi : s.tables.invites.get? invite with
  | none =>
    have hd : (s.hold k ⟨[], fails⟩ s.tables).call k (.decrement invite) =
        some (.error .notFound, s.hold k ⟨[], fails⟩ s.tables) :=
      h.hold_call (Store.call_decrement_error rfl (Tables.decrement_missing hi))
    rw [Tables.redeemed_missing hi, run_call hd]
    exact h.run_refused _ _ .inviteNotFound
  | some i =>
    cases hu : i.isExhausted with
    | true =>
      have hd : (s.hold k ⟨[], fails⟩ s.tables).call k (.decrement invite) =
          some (.error .exhausted, s.hold k ⟨[], fails⟩ s.tables) :=
        h.hold_call (Store.call_decrement_error rfl (Tables.decrement_exhausted hi hu))
      rw [Tables.redeemed_exhausted hi hu, run_call hd]
      exact h.run_refused _ _ .inviteExhausted
    | false =>
      have hd : (s.hold k ⟨[], fails⟩ s.tables).call k (.decrement invite) =
          some (.ok i.grant, s.hold k ⟨[.decrement invite], fails⟩ (s.tables.takeUse invite)) :=
        h.hold_decrement (Tables.decrement_usable hi hu)
      rw [run_call hd]
      simp only [Invites.taken, Invite.grant]
      -- A use is taken; what follows may still give it back.
      cases hm : s.tables.memberships.contains (user, i.group) with
      | true =>
        have hw : (s.hold k ⟨[.decrement invite], fails⟩ (s.tables.takeUse invite)).call k
            (.insertMembership ⟨user, i.group, i.role, false⟩) =
              some (.error (.conflict "memberships_pkey"),
                s.hold k ⟨[.decrement invite], fails⟩ (s.tables.takeUse invite)) :=
          h.hold_call (Store.call_insertMembership_error rfl
            (Tables.insertMembership_taken hm))
        rw [Tables.redeemed_member hi hu hm, run_call hw]
        have hr := h.run_refused (k := k) ⟨[.decrement invite], fails⟩ (s.tables.takeUse invite)
          .alreadyInGroup
        rw [Transaction.rollback, List.foldl, List.foldl, Undo.apply,
          Tables.increment_takeUse] at hr
        exact hr
      | false =>
        let m : Membership := { user, group := i.group, role := i.role }
        have hw : (s.hold k ⟨[.decrement invite], fails⟩ (s.tables.takeUse invite)).call k
            (.insertMembership m) = some (.ok (),
              s.hold k ⟨[.membership m.key, .decrement invite], fails⟩
                (s.tables.admitted invite m)) :=
          h.hold_insertMembership (Tables.insertMembership_free hm)
        rw [run_call hw]
        have hc := h.run_entered (k := k) ⟨[.membership m.key, .decrement invite], fails⟩
          (s.tables.admitted invite m) m
        cases fails with
        | true =>
          rw [Tables.redeemed_uncommitted hi hu hm]
          rw [Transaction.commit, if_pos rfl, Tables.admitted_undone invite hm] at hc
          exact hc
        | false =>
          rw [Tables.redeemed_admitted hi hu hm]
          exact hc

end Idle

end GroupAccess.Service
