import GroupAccess.Core.Operation
import GroupAccess.Proofs.Program.Redemption
import GroupAccess.Store.Transaction

namespace GroupAccess

namespace Tokens

/-- The issue of a signed token, which no tables matter to. -/
def signed (policy : TokenPolicy) (now : Instant) (user : UserId) (audience : Audience)
    (lifetime : Span) (serial : Uuid) : Except Refusal IssuedToken :=
  (expiryAfter now lifetime).map fun expiry =>
    ⟨String.ofList (Signed.write policy.key (claims now expiry user audience serial)), .signed,
      some expiry⟩

end Tokens

namespace Tables

/-- The refusal of a membership whose role is not stored. -/
def missingRole (user : UserId) (group : GroupId) (role : RoleId) : Refusal :=
  let holder := s!"membership of {user.uuid.text} in {group.uuid.text}"
  .internal s!"{holder} references missing role {role.uuid.text}"

/-- What a user may do in a group. -/
def roleOf (t : Tables) (user : UserId) (group : GroupId) : Except Refusal Role :=
  match t.memberships.get? (user, group) with
  | none => .error .notAMember
  | some m =>
    match t.roles.get? m.role with
    | none => .error (missingRole user group m.role)
    | some stored => .ok (m.effectiveRole stored)

theorem roleOf_eq_ok {t : Tables} {user : UserId} {group : GroupId} {r : Role}
    (h : t.roleOf user group = .ok r) :
    ∃ m stored, t.memberships.get? (user, group) = some m ∧ t.roles.get? m.role = some stored ∧
      r = m.effectiveRole stored := by
  unfold roleOf at h
  cases hm : t.memberships.get? (user, group) with
  | none =>
    rw [hm] at h
    cases h
  | some m =>
    simp only [hm] at h
    cases hr : t.roles.get? m.role with
    | none =>
      rw [hr] at h
      cases h
    | some stored =>
      simp only [hr] at h
      cases h
      exact ⟨m, stored, rfl, hr, rfl⟩

def registered (t : Tables) (policy : PasswordPolicy) (now : Instant) (email : String)
    (password : Password) (id : UserId) (salt : Password.Salt) : Except Refusal User × Tables :=
  if Email.isValid (Email.normalize email) = false then (.error .emailInvalid, t)
  else if (t.findUserByEmail (Email.normalize email)).isSome then (.error .emailAlreadyInUse, t)
  else
    match password.checkStrength policy.minEntropy,
      password.hash policy.serverSecret policy.maxBytes salt with
    | .error e, _ => (.error (.ofPassword e), t)
    | .ok _, .error e => (.error (.ofPassword e), t)
    | .ok _, .ok hash =>
      let user : User := ⟨id, Email.normalize email, hash, now⟩
      (.ok user, { t with users := t.users.insert id user })

/-- The account of an address and a password. -/
def authenticated (t : Tables) (policy : PasswordPolicy) (email : String) (password : Password) :
    Option User :=
  (t.findUserByEmail (Email.normalize email)).filter
    fun user => password.verify user.passwordHash policy.serverSecret

/-- The refusal of a secret whose record is not stored. -/
def writeRefusal (e : StoreFailure) : Refusal :=
  .internal s!"Failed to persist opaque token: {e.message}"

/-- The issue of a secret, with whether writes of tokens are made to fail. -/
def secretIssued (t : Tables) (fails : Bool) (now : Instant) (user : UserId)
    (lifetime : Option Span) (id : TokenId) (secret : Secret) :
    Except Refusal IssuedToken × Tables :=
  match lifetime.mapM (Tokens.expiryAfter now) with
  | .error e => (.error e, t)
  | .ok expiry =>
    if fails then (.error (writeRefusal (.database "injected token write failure")), t)
    else if t.tokens.contains secret.digest then
      (.error (writeRefusal (.conflict "opaque_tokens_secret_hash_key")), t)
    else
      let r : SecretRecord := ⟨id, user, secret.digest, expiry, now⟩
      (.ok ⟨secret.text, .secret, expiry⟩, { t with tokens := t.tokens.insert r.digest r })

/-- A secret is refused, or its digest is new and a record of it is stored. -/
theorem secretIssued_cases (t : Tables) (fails : Bool) (now : Instant) (user : UserId)
    (lifetime : Option Span) (id : TokenId) (secret : Secret) :
    (∃ e, t.secretIssued fails now user lifetime id secret = (.error e, t)) ∨
      ∃ expiry, lifetime.mapM (Tokens.expiryAfter now) = .ok expiry ∧
        t.tokens.contains secret.digest = false ∧
        t.secretIssued fails now user lifetime id secret = (.ok ⟨secret.text, .secret, expiry⟩,
          { t with tokens :=
            t.tokens.insert secret.digest ⟨id, user, secret.digest, expiry, now⟩ }) := by
  unfold secretIssued
  split
  · exact .inl ⟨_, rfl⟩
  · rename_i expiry he
    split
    · exact .inl ⟨_, rfl⟩
    split
    · exact .inl ⟨_, rfl⟩
    · rename_i hn
      exact .inr ⟨expiry, he, Bool.eq_false_iff.2 hn, rfl⟩

/-- The issue of a token of a kind, with whether writes of tokens are made to fail. -/
def issued (t : Tables) (fails : Bool) (policy : TokenPolicy) (now : Instant) (user : UserId)
    (d : Draws) : TokenKind → Except Refusal IssuedToken × Tables
  | .signed => (Tokens.signed policy now user .access policy.accessLifetime d.serial, t)
  | .secret => t.secretIssued fails now user (some policy.secretLifetime) d.token d.secret

def groupFounded (t : Tables) (now : Instant) (owner : UserId) (name : String)
    (description : Option String) (id : GroupId) (fresh : RoleId) :
    Except Refusal Group × Tables :=
  if (Text.trim name).isEmpty then (.error .groupNameInvalid, t)
  else
    let (role, t) := t.createRole .full fresh
    let group : Group := ⟨id, Text.trim name, description.getD "", owner, now⟩
    match t.createGroup group (.owner owner id role) with
    | .error _ => (.error .groupNameTaken, t)
    | .ok t => (.ok group, t)

def invited (t : Tables) (actor : UserId) (group : GroupId) (role : Role) (uses : Int)
    (id : InviteId) (fresh : RoleId) : Except Refusal Invite × Tables :=
  if uses ≤ 0 then (.error .badInviteLimit, t)
  else if (t.groups.get? group).isNone then (.error .groupNotFound, t)
  else
    match t.roleOf actor group with
    | .error e => (.error (Invites.asOutsider e), t)
    | .ok own =>
      if own.allows .manageMembers = true then
        if own.covers role = true then
          let (roleId, t) := t.createRole role fresh
          let invite : Invite := ⟨id, group, roleId, uses, actor⟩
          (.ok invite, t.createInvite invite)
        else (.error (.forbidden "granted role exceeds own role"), t)
      else (.error (.forbidden "manage_members"), t)

/-- The tables after one use of an invite was taken and a membership written. -/
def admitted (t : Tables) (invite : InviteId) (m : Membership) : Tables :=
  { t.takeUse invite with memberships := t.memberships.insert m.key m }

/-- A new member holds the role of its membership in effect. -/
theorem roleOf_admitted {t : Tables} {user : UserId} {group : GroupId} {role : RoleId} {r : Role}
    (invite : InviteId) (hr : t.roles.get? role = some r) :
    (t.admitted invite { user, group, role }).roleOf user group = .ok r.effective := by
  have hm : (t.admitted invite { user, group, role }).memberships.get? (user, group) =
      some { user, group, role } := Table.get?_insert_self ..
  have hr : (t.admitted invite { user, group, role }).roles.get? role = some r := hr
  simp only [roleOf, hm, hr]
  rfl

/-- The writes of a redemption, taken back in reverse, leave the tables as they were. -/
theorem admitted_undone {t : Tables} {m : Membership} (invite : InviteId) {fails : Bool}
    (h : t.memberships.contains m.key = false) :
    Transaction.rollback ⟨[.membership m.key, .decrement invite], fails⟩ (t.admitted invite m) =
      t := by
  have hm := removeMembership_insert (t := t.takeUse invite) h
  simp only [Transaction.rollback, List.foldl, Undo.apply, admitted]
  rw [takeUse_memberships] at hm
  rw [hm, increment_takeUse]

/-- A redemption up to its commit. -/
def enrolled (t : Tables) (invite : InviteId) (user : UserId) :
    Except Refusal Membership × Tables :=
  match t.invites.get? invite with
  | none => (.error .inviteNotFound, t)
  | some i =>
    let m : Membership := { user, group := i.group, role := i.role }
    if i.isExhausted then (.error .inviteExhausted, t)
    else if t.memberships.contains m.key then (.error .alreadyInGroup, t)
    else (.ok m, t.admitted invite m)

/-- A redemption, with whether commits are made to fail. -/
def redeemed (t : Tables) (fails : Bool) (invite : InviteId) (user : UserId) :
    Except Refusal Membership × Tables :=
  match t.enrolled invite user with
  | (.error e, t) => (.error e, t)
  | (.ok m, t') =>
    if fails then (.error (Invites.commitRefusal (.database "injected commit failure")), t)
    else (.ok m, t')

section

variable {t : Tables} {fails : Bool} {invite : InviteId} {user : UserId} {i : Invite}

theorem redeemed_missing (hi : t.invites.get? invite = none) :
    t.redeemed fails invite user = (.error .inviteNotFound, t) := by
  simp only [redeemed, enrolled, hi]

theorem redeemed_exhausted (hi : t.invites.get? invite = some i) (hu : i.isExhausted = true) :
    t.redeemed fails invite user = (.error .inviteExhausted, t) := by
  simp only [redeemed, enrolled, hi, hu, if_true]

theorem redeemed_member (hi : t.invites.get? invite = some i) (hu : i.isExhausted = false)
    (hm : t.memberships.contains (user, i.group) = true) :
    t.redeemed fails invite user = (.error .alreadyInGroup, t) := by
  simp only [redeemed, enrolled, hi, hu, Membership.key, hm, Bool.false_eq_true, if_true, if_false]

theorem redeemed_uncommitted (hi : t.invites.get? invite = some i) (hu : i.isExhausted = false)
    (hm : t.memberships.contains (user, i.group) = false) :
    t.redeemed true invite user =
      (.error (Invites.commitRefusal (.database "injected commit failure")), t) := by
  simp only [redeemed, enrolled, hi, hu, Membership.key, hm, Bool.false_eq_true, if_true, if_false]

theorem redeemed_admitted (hi : t.invites.get? invite = some i) (hu : i.isExhausted = false)
    (hm : t.memberships.contains (user, i.group) = false) :
    t.redeemed false invite user =
      (.ok { user, group := i.group, role := i.role },
        t.admitted invite { user, group := i.group, role := i.role }) := by
  simp only [redeemed, enrolled, hi, hu, Membership.key, hm, Bool.false_eq_true, if_false]

end

end Tables

end GroupAccess
