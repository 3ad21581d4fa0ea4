import GroupAccess.Core.Operation

namespace GroupAccess

namespace Program

variable {α β : Type}

@[simp] theorem bind_eq (p : Program α) (f : α → Program β) : (p >>= f) = p.bind f := rfl

@[simp] theorem pure_eq (a : α) : (pure a : Program α) = .done (.ok a) := rfl

@[simp] theorem throw_eq (e : Refusal) : (throw e : Program α) = .done (.error e) := rfl

@[simp] theorem refuse_eq (e : Refusal) : (refuse e : Program α) = .done (.error e) := rfl

@[simp] theorem bind_ok (a : α) (f : α → Program β) : (done (.ok a)).bind f = f a := rfl

@[simp] theorem bind_error (e : Refusal) (f : α → Program β) :
    (done (.error e)).bind f = .done (.error e) := rfl

/-- Every call that a program can make, whatever the answers are, is one of `ok`. -/
inductive Calls (ok : Call → Prop) : Program α → Prop
  | done (r : Except Refusal α) : Calls ok (.done r)
  | count (e : Event) {next : Program α} (h : Calls ok next) : Calls ok (.count e next)
  | call {c : Call} {next : Except StoreFailure c.Result → Program α} (hc : ok c)
      (h : ∀ r, Calls ok (next r)) : Calls ok (.call c next)

namespace Calls

variable {ok : Call → Prop} {p q : Program α}

theorem all (p : Program α) : Calls (fun _ => True) p := by
  induction p with
  | done r => exact done r
  | count e next ih => exact count e ih
  | call c next ih => exact call trivial ih

theorem require (e : Refusal) (a : Option α) : Calls ok (Program.require e a) := by
  cases a with
  | none => exact done _
  | some a => exact done _

theorem ask {c : Call} (f : StoreFailure → Refusal) (hc : ok c) :
    Calls ok (Program.ask c f) := by
  refine call hc fun r => ?_
  cases r with
  | ok a => exact done _
  | error e => exact done _

theorem ite {c : Prop} [Decidable c] (hp : Calls ok p) (hq : Calls ok q) :
    Calls ok (if c then p else q) := by
  by_cases h : c
  · rwa [if_pos h]
  · rwa [if_neg h]

theorem bind {f : α → Program β} (hp : Calls ok p) (hf : ∀ a, Calls ok (f a)) :
    Calls ok (p.bind f) := by
  induction hp with
  | done r =>
    cases r with
    | ok a => exact hf a
    | error e => exact done _
  | count e _ ih => exact count e ih
  | call hc _ ih => exact call hc ih

theorem catching {f : Refusal → Program α} (hp : Calls ok p) (hf : ∀ e, Calls ok (f e)) :
    Calls ok (p.catching f) := by
  induction hp with
  | done r =>
    cases r with
    | ok a => exact done _
    | error e => exact hf e
  | count e _ ih => exact count e ih
  | call hc _ ih => exact call hc ih

theorem mono {ok' : Call → Prop} (hp : Calls ok p) (h : ∀ c, ok c → ok' c) : Calls ok' p := by
  induction hp with
  | done r => exact done r
  | count e _ ih => exact count e ih
  | call hc _ ih => exact call (h _ hc) ih

end Calls

/-- The part of a program that is left when its first events are counted. -/
def settled : Program α → Program α
  | .count _ next => next.settled
  | p => p

theorem settled_ne_count (p : Program α) {e : Event} {next : Program α} :
    p.settled ≠ .count e next := by
  induction p with
  | done r => exact nofun
  | count e next ih => exact ih
  | call c next => exact nofun

theorem Calls.settled {ok : Call → Prop} {p : Program α} (hp : Calls ok p) :
    Calls ok p.settled := by
  induction hp with
  | done r => exact .done r
  | count e _ ih => exact ih
  | call hc h _ => exact .call hc h

/-- The next call of a program is one of those that it can make, and so are those that follow. -/
theorem Calls.head {ok : Call → Prop} {p : Program α} (hp : Calls ok p) {c : Call}
    {next : Except StoreFailure c.Result → Program α} (hs : p.settled = .call c next) :
    ok c ∧ ∀ r, Calls ok (next r) := by
  have hp := hp.settled
  rw [hs] at hp
  cases hp with
  | call hc h => exact ⟨hc, h⟩

end Program

open Program

namespace Invites

/-- The checks of an invite in their order, each with one way on. -/
theorem create_eq (actor : UserId) (group : GroupId) (role : Role) (uses : Int) (id : InviteId)
    (fresh : RoleId) :
    create actor group role uses id fresh =
      if uses ≤ 0 then .done (.error .badInviteLimit)
      else (ask (.findGroup group)).bind fun found =>
        if found.isNone then .done (.error .groupNotFound)
        else ((Groups.resolveRole actor group).catching
            fun e => .done (.error (asOutsider e))).bind fun own =>
          if own.allows .manageMembers = true then
            if own.covers role = true then
              (ask (.createRole role fresh)).bind fun roleId =>
                (ask (.createInvite ⟨id, group, roleId, uses, actor⟩)).bind fun _ =>
                  .done (.ok ⟨id, group, roleId, uses, actor⟩)
            else .done (.error (.forbidden "granted role exceeds own role"))
          else .done (.error (.forbidden "manage_members")) := by
  simp only [create, bind_eq, pure_eq, throw_eq, refuse_eq, bind_error]

end Invites

namespace Groups

/-- What a group that cannot be stored is refused with. -/
def nameRefusal : StoreFailure → Refusal
  | .conflict _ => .groupNameTaken
  | e => .ofStore e

theorem create_eq (now : Instant) (owner : UserId) (name : String) (description : Option String)
    (id : GroupId) (fresh : RoleId) :
    create now owner name description id fresh =
      if (Text.trim name).isEmpty = true then .done (.error .groupNameInvalid)
      else (ask (.createRole .full fresh)).bind fun role =>
        (ask (.createGroup ⟨id, Text.trim name, description.getD "", owner, now⟩
          (.owner owner id role)) nameRefusal).bind fun _ =>
        .done (.ok ⟨id, Text.trim name, description.getD "", owner, now⟩) := by
  simp only [create, bind_eq, pure_eq, throw_eq, bind_error]
  rfl

end Groups

namespace Accounts

/-- What a user that cannot be stored is refused with. -/
def emailRefusal : StoreFailure → Refusal
  | .conflict _ => .emailAlreadyInUse
  | e => .ofStore e

theorem register_eq (policy : PasswordPolicy) (now : Instant) (email : String)
    (password : Password) (id : UserId) (salt : Password.Salt) :
    register policy now email password id salt =
      if Email.isValid (Email.normalize email) = true then
        (ask (.findUserByEmail (Email.normalize email))).bind fun found =>
          if found.isSome = true then .done (.error .emailAlreadyInUse)
          else (lift ((password.checkStrength policy.minEntropy).mapError
              Refusal.ofPassword)).bind fun _ =>
            (lift ((password.hash policy.serverSecret policy.maxBytes salt).mapError
              Refusal.ofPassword)).bind fun hash =>
            (ask (.createUser ⟨id, Email.normalize email, hash, now⟩) emailRefusal).bind fun _ =>
            .done (.ok ⟨id, Email.normalize email, hash, now⟩)
      else .done (.error .emailInvalid) := by
  simp only [register, bind_eq, pure_eq, throw_eq, bind_error]
  rfl

/-- A token of a kind that is known is issued to the user whose password was given. -/
theorem issueToken_eq {kind : String} {k : TokenKind} (hk : TokenKind.ofText? kind = some k)
    (passwords : PasswordPolicy) (tokens : TokenPolicy) (now : Instant) (email : String)
    (password : Password) (serial : Uuid) (id : TokenId) (secret : Secret) :
    issueToken passwords tokens now email password kind serial id secret =
      (authenticate passwords email password).bind fun user =>
        match k with
        | .signed => Tokens.issueSigned tokens now user.id .access tokens.accessLifetime serial
        | .secret => Tokens.issueSecret now user.id (some tokens.secretLifetime) id secret := by
  simp only [issueToken, hk, bind_eq]
  rfl

end Accounts

end GroupAccess
