import GroupAccess.Proofs.Operation.Footprint
import GroupAccess.Proofs.Program.Redemption
import GroupAccess.Proofs.Store.Rollback

namespace GroupAccess

/-- The role that an operation asks the store for. -/
def Operation.interns? : Operation → Option Role
  | createGroup _ _ _ => some .full
  | createRole role => some role
  | createInvite _ _ role _ => some role
  | _ => none

namespace Program

variable {α β : Type}

/-- No call is left to make. -/
abbrev Through (p : Program α) : Prop := Calls (fun _ => False) p

theorem Through.settled_eq {p : Program α} (h : p.Through) : ∃ r, p.settled = .done r := by
  cases hs : p.settled with
  | done r => exact ⟨r, rfl⟩
  | count e next => exact absurd hs p.settled_ne_count
  | call c next => exact (h.head hs).1.elim

/-- At most one call is left, which is neither for a role nor of a transaction. -/
inductive Closing : Program α → Prop
  | through {p : Program α} (h : p.Through) : Closing p
  | last {c : Call} {next : Except StoreFailure c.Result → Program α}
      (hc : c.method ≠ .createRole ∧ c.method.transacts = false) (h : ∀ r, (next r).Through) :
      Closing (.call c next)

/-- What is left while a transaction is open: writes in it, and then its end. -/
inductive Transacting : Program α → Prop
  | write (w : Write) {next : Except StoreFailure w.call.Result → Program α}
      (h : ∀ r, Transacting (next r)) : Transacting (.call w.call next)
  | commit {next : Except StoreFailure Unit → Program α} (h : ∀ r, (next r).Through) :
      Transacting (.call .commit next)
  | rollback {next : Except StoreFailure Unit → Program α} (h : ∀ r, (next r).Through) :
      Transacting (.call .rollback next)

/-- Nothing is written but with the last call, in a transaction, or before it a role that the
program is to store. -/
inductive WritesLast (role? : Option (Role × RoleId)) : Program α → Prop
  | closing {p : Program α} (h : p.Closing) : WritesLast role? p
  | count (e : Event) {next : Program α} (h : WritesLast role? next) :
      WritesLast role? (.count e next)
  | look {c : Call} {next : Except StoreFailure c.Result → Program α}
      (hc : c.method.reads = true) (h : ∀ r, WritesLast role? (next r)) :
      WritesLast role? (.call c next)
  | intern {role : Role} {fresh : RoleId} {next : Except StoreFailure RoleId → Program α}
      (hr : role? = some (role, fresh)) (h : ∀ r, (next r).Closing) :
      WritesLast role? (.call (.createRole role fresh) next)
  | begin {next : Except StoreFailure Unit → Program α} (he : ∀ e, (next (.error e)).Through)
      (ho : (next (.ok ())).Transacting) : WritesLast role? (.call .begin next)

theorem Closing.settled {p : Program α} (h : p.Closing) : p.settled.Closing := by
  cases h with
  | through h => exact .through (Calls.settled h)
  | last hc h => exact .last hc h

/-- What is left before the next call is that call. -/
theorem Transacting.settled_eq {p : Program α} (h : p.Transacting) : p.settled = p := by
  cases h <;> rfl

theorem Closing.ask {c : Call} {g : StoreFailure → Refusal} {f : c.Result → Program α}
    (hc : c.method ≠ .createRole ∧ c.method.transacts = false) (hf : ∀ a, (f a).Through) :
    ((Program.ask c g).bind f).Closing := by
  refine .last hc fun r => ?_
  cases r with
  | ok a => exact hf a
  | error e => exact .done _

namespace WritesLast

variable {role? : Option (Role × RoleId)} {p q : Program α}

theorem done (r : Except Refusal α) : WritesLast role? (.done r) := .closing (.through (.done r))

theorem settled (h : WritesLast role? p) : WritesLast role? p.settled := by
  induction h with
  | closing h => exact .closing h.settled
  | count e _ ih => exact ih
  | look hc h => exact .look hc h
  | intern hr h => exact .intern hr h
  | begin he ho => exact .begin he ho

theorem ite {c : Prop} [Decidable c] (hp : WritesLast role? p) (hq : WritesLast role? q) :
    WritesLast role? (if c then p else q) := by
  by_cases h : c
  · rwa [if_pos h]
  · rwa [if_neg h]

/-- What only looks may come before. -/
theorem bind {f : α → Program β} (hp : Calls (fun c => c.method.reads = true) p)
    (hf : ∀ a, WritesLast role? (f a)) : WritesLast role? (p.bind f) := by
  induction hp with
  | done r =>
    cases r with
    | ok a => exact hf a
    | error e => exact .done _
  | count e _ ih => exact .count e ih
  | call hc _ ih => exact .look hc ih

theorem of_reads (hp : Calls (fun c => c.method.reads = true) p) : WritesLast role? p := by
  induction hp with
  | done r => exact .done r
  | count e _ ih => exact .count e ih
  | call hc _ ih => exact .look hc ih

theorem ask {c : Call} {g : StoreFailure → Refusal} {f : c.Result → Program α}
    (hc : c.method ≠ .createRole ∧ c.method.transacts = false) (hf : ∀ a, (f a).Through) :
    WritesLast role? ((Program.ask c g).bind f) :=
  .closing (.ask hc hf)

theorem intern_ask {role : Role} {fresh : RoleId} {g : StoreFailure → Refusal}
    {f : RoleId → Program α} (hr : role? = some (role, fresh)) (hf : ∀ id, (f id).Closing) :
    WritesLast role? ((Program.ask (.createRole role fresh) g).bind f) := by
  refine .intern hr fun r => ?_
  cases r with
  | ok id => exact hf id
  | error e => exact .through (.done _)

end WritesLast

end Program

open Program

namespace Invites

theorem ended_through (r : Except Refusal Membership) : (ended r).Through := by
  cases r with
  | ok m => exact .count _ (.done _)
  | error e => exact .count _ (.done _)

theorem refused_transacting (e : Refusal) : (refused e).Transacting :=
  .rollback fun _ => ended_through _

theorem entered_transacting (m : Membership) : (entered m).Transacting := by
  refine .commit fun r => ?_
  cases r with
  | ok _ => exact ended_through _
  | error e => exact ended_through _

theorem taken_transacting (m : Membership) : (taken m).Transacting := by
  refine .write (.insertMembership m) fun r => ?_
  cases r with
  | ok _ => exact entered_transacting m
  | error e => exact refused_transacting _

theorem opened_transacting (invite : InviteId) (user : UserId) :
    (opened invite user).Transacting := by
  refine .write (.decrement invite) fun r => ?_
  cases r with
  | ok grant => exact taken_transacting _
  | error e => exact refused_transacting _

end Invites

variable {role? : Option (Role × RoleId)}

theorem issueSecret_writesLast (now : Instant) (user : UserId) (lifetime : Option Span)
    (id : TokenId) (secret : Secret) :
    WritesLast role? (Tokens.issueSecret now user lifetime id secret) := by
  refine .bind (Calls.done _) fun expiry => ?_
  refine .ask ⟨by simp [Call.method], rfl⟩ fun _ => ?_
  exact Calls.bind (Calls.count _ (Calls.done _)) fun _ => Calls.done _

/-- All that an operation writes, it writes with its last call or in a transaction, but for the role
that it asks for. -/
theorem program_writesLast (policy : Policy) (now : Instant) (d : Draws) (o : Operation) :
    WritesLast (o.interns?.map (·, d.role)) (o.program policy now d) := by
  cases o with
  | register email password =>
    rw [Operation.program, Accounts.register_eq]
    refine .ite (.bind (Calls.ask _ rfl) fun found => ?_) (.done _)
    refine .ite (.done _) (.bind (Calls.done _) fun _ => .bind (Calls.done _) fun hash => ?_)
    exact .ask ⟨by simp [Call.method], rfl⟩ fun _ => Calls.done _
  | issueToken email password kind =>
    simp only [Operation.program, Accounts.issueToken, bind_eq]
    refine .bind (Calls.require _ _) fun kind => ?_
    refine .bind (authenticate_calls fun _ => rfl) fun user => ?_
    cases kind with
    | signed => exact .of_reads issueSigned_calls
    | secret => exact issueSecret_writesLast ..
  | issueApiKey user => exact issueSecret_writesLast ..
  | deleteUser user =>
    refine .closing (.last ⟨by simp [Call.method], rfl⟩ fun r => ?_)
    cases r <;> exact .done _
  | purgeTokens =>
    refine .closing (.last ⟨by simp [Call.method], rfl⟩ fun r => ?_)
    cases r <;> exact .done _
  | createGroup owner name description =>
    rw [Operation.program, Groups.create_eq]
    refine .ite (.done _) (.intern_ask rfl fun role => ?_)
    exact .ask ⟨by simp [Call.method], rfl⟩ fun _ => Calls.done _
  | createRole role =>
    exact .intern rfl fun r => by cases r <;> exact .through (.done _)
  | createInvite actor group role uses =>
    rw [Operation.program, Invites.create_eq]
    refine .ite (.done _) (.bind (Calls.ask _ rfl) fun found => ?_)
    refine .ite (.done _) (.bind ?_ fun own => ?_)
    · exact Calls.catching (resolveRole_calls rfl fun _ => rfl) fun e => Calls.done _
    refine .ite (.ite (.intern_ask rfl fun roleId => ?_) (.done _)) (.done _)
    exact .ask ⟨by simp [Call.method], rfl⟩ fun _ => Calls.done _
  | redeem invite user =>
    rw [Operation.program, Invites.redeem_eq]
    exact .begin (fun e => Invites.ended_through (.error (.ofStore e)))
      (Invites.opened_transacting invite user)
  | login _ _ | refresh _ | resolveToken _ | findUser _ | findGroup _ | resolveRole _ _
  | findRoleId _ | inviteUsable _ _ | health =>
    refine .of_reads ((program_calls policy now d _).mono fun c hc => ?_)
    revert hc
    generalize c.method = m
    simp only [Operation.methods]
    revert m
    decide

end GroupAccess
