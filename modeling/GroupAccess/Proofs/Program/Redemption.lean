import GroupAccess.Core.Groups

namespace GroupAccess.Invites

/-- What a use that cannot be taken is refused with. -/
def useRefusal : StoreFailure → Refusal
  | .notFound => .inviteNotFound
  | .exhausted => .inviteExhausted
  | e => .ofStore e

/-- What a membership that cannot be written is refused with. -/
def entryRefusal : StoreFailure → Refusal
  | .conflict _ => .alreadyInGroup
  | e => .ofStore e

def commitRefusal (e : StoreFailure) : Refusal :=
  .internal s!"Failed to commit invite redemption: {e.message}"

/-- The end of a redemption, counted by its outcome. -/
def ended : Except Refusal Membership → Program Membership
  | .ok m => .count (.redemption "ok") (.done (.ok m))
  | .error e => .count (.redemption e.label) (.done (.error e))

/-- A refusal after which the transaction is still open. -/
def refused (e : Refusal) : Program Membership := .call .rollback fun _ => ended (.error e)

/-- The membership is written; the commit decides. -/
def entered (m : Membership) : Program Membership :=
  .call .commit fun
    | .ok _ => ended (.ok m)
    | .error e => ended (.error (commitRefusal e))

/-- A use is taken for a membership that is still to be written. -/
def taken (m : Membership) : Program Membership :=
  .call (.insertMembership m) fun
    | .ok _ => entered m
    | .error e => refused (entryRefusal e)

/-- The transaction is open. -/
def opened (invite : InviteId) (user : UserId) : Program Membership :=
  .call (.decrement invite) fun
    | .ok grant => taken { user, group := grant.group, role := grant.role }
    | .error e => refused (useRefusal e)

/-- What follows the answer to the first call. -/
def begun (invite : InviteId) (user : UserId) : Except StoreFailure Unit → Program Membership
  | .ok _ => opened invite user
  | .error e => ended (.error (.ofStore e))

theorem redeem_eq (invite : InviteId) (user : UserId) :
    redeem invite user = .call .begin (begun invite user) := by
  -- The two sides make the same calls; each answer is looked at in turn.
  refine congrArg (Program.call .begin) (funext fun r => ?_)
  cases r with
  | error e => rfl
  | ok _ =>
    refine congrArg (Program.call (.decrement invite)) (funext fun r => ?_)
    cases r with
    | error e => cases e <;> rfl
    | ok grant =>
      refine congrArg (Program.call (.insertMembership _)) (funext fun r => ?_)
      cases r with
      | error e => cases e <;> rfl
      | ok _ =>
        refine congrArg (Program.call .commit) (funext fun r => ?_)
        cases r <;> rfl

end GroupAccess.Invites
