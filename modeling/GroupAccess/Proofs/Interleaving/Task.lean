import GroupAccess.Proofs.Interleaving.World
import GroupAccess.Proofs.Program.Redemption
import GroupAccess.Proofs.Store.Balance

namespace GroupAccess

open Program

variable {α : Type}

/-- Calls that neither belong to a transaction nor make an invite. -/
def Call.IsPlain (c : Call) : Prop := c.method.transacts = false ∧ c.method ≠ .createInvite

theorem Call.IsPlain.ne_commit {c : Call} (h : c.IsPlain) (ok : Bool) :
    (c.method, ok) ≠ (.commit, true) := by
  intro he
  have hm : c.method = .commit := congrArg Prod.fst he
  have ht := h.1
  rw [hm] at ht
  cases ht

theorem Call.IsPlain.ne_createInvite {c : Call} (h : c.IsPlain) (ok : Bool) :
    (c.method, ok) ≠ (.createInvite, true) :=
  fun he => h.2 (congrArg Prod.fst he)

/-- Operations other than those on invites make plain calls only. -/
theorem Operation.methods_plain {o : Operation} (hr : ∀ id user, o ≠ .redeem id user)
    (hi : ∀ actor group role uses, o ≠ .createInvite actor group role uses) {c : Call}
    (h : c.method ∈ o.methods) : c.IsPlain := by
  unfold Call.IsPlain
  revert h
  generalize c.method = m
  cases o with
  | redeem id user => exact absurd rfl (hr id user)
  | createInvite actor group role uses => exact absurd rfl (hi actor group role uses)
  | _ =>
    simp only [Operation.methods]
    revert m
    decide

/-- What is left of a program that makes at most one invite, and is at its end when it has. -/
inductive Making (id : InviteId) (uses : Int) : Program α → Prop
  | done (r : Except Refusal α) : Making id uses (.done r)
  | count (e : Event) {next : Program α} (h : Making id uses next) : Making id uses (.count e next)
  | call {c : Call} {next : Except StoreFailure c.Result → Program α} (hc : c.IsPlain)
      (h : ∀ r, Making id uses (next r)) : Making id uses (.call c next)
  | make {i : Invite} {next : Except StoreFailure Unit → Program α} (hid : i.id = id)
      (hr : i.remaining = uses) (hu : 0 < uses) (h : ∀ r, ∃ e, next r = .done e) :
      Making id uses (.call (.createInvite i) next)

namespace Making

variable {β : Type} {id : InviteId} {uses : Int} {p : Program α}

theorem settled (h : Making id uses p) : Making id uses p.settled := by
  induction h with
  | done r => exact done r
  | count e _ ih => exact ih
  | call hc h _ => exact call hc h
  | make hid hr hu h => exact make hid hr hu h

theorem bind {f : α → Program β} (hp : Calls Call.IsPlain p) (hf : ∀ a, Making id uses (f a)) :
    Making id uses (p.bind f) := by
  induction hp with
  | done r =>
    cases r with
    | ok a => exact hf a
    | error e => exact done _
  | count e _ ih => exact count e ih
  | call hc _ ih => exact call hc ih

theorem ite {q : Program α} {c : Prop} [Decidable c] (hp : c → Making id uses p)
    (hq : ¬c → Making id uses q) : Making id uses (if c then p else q) := by
  by_cases h : c
  · rw [if_pos h]
    exact hp h
  · rw [if_neg h]
    exact hq h

theorem create (actor : UserId) (group : GroupId) (role : Role) (uses : Int) (id : InviteId)
    (fresh : RoleId) : Making id uses (Invites.create actor group role uses id fresh) := by
  rw [Invites.create_eq]
  refine ite (fun _ => done _) fun hu => ?_
  refine bind (Calls.ask _ ⟨rfl, nofun⟩) fun found => ite (fun _ => done _) fun _ => ?_
  have hown : Calls Call.IsPlain (Groups.resolveRole actor group) :=
    resolveRole_calls ⟨rfl, nofun⟩ fun _ => ⟨rfl, nofun⟩
  refine bind (Calls.catching hown fun e => Calls.done _) fun own => ?_
  refine ite (fun _ => ite (fun _ => ?_) fun _ => done _) fun _ => done _
  refine bind (Calls.ask _ ⟨rfl, nofun⟩) fun roleId => ?_
  refine make rfl rfl (by omega) fun r => ?_
  cases r with
  | ok _ => exact ⟨_, rfl⟩
  | error e => exact ⟨_, rfl⟩

end Making

/-- What is left of a redemption of an invite, the transaction it holds, and whether it is
committed. The invite was exhausted, `full`, if the redemption says so. -/
inductive Redeeming (full : Prop) (id : InviteId) (user : UserId) :
    Option Transaction → Program Membership → Bool → Prop
  | waiting : Redeeming full id user none (Invites.redeem id user) false
  | opened {fails : Bool} :
      Redeeming full id user (some ⟨[], fails⟩) (Invites.opened id user) false
  | taken {fails : Bool} {m : Membership} :
      Redeeming full id user (some ⟨[.decrement id], fails⟩) (Invites.taken m) false
  | entered {fails : Bool} {m : Membership} :
      Redeeming full id user (some ⟨[.membership m.key, .decrement id], fails⟩)
        (Invites.entered m) false
  | refused {x : Transaction} {e : Refusal} (he : e = .inviteExhausted → full) :
      Redeeming full id user (some x) (Invites.refused e) false
  | ended {r : Except Refusal Membership} (he : r = .error .inviteExhausted → full) :
      Redeeming full id user none (.done r) r.isOk

theorem Redeeming.mono {full full' : Prop} {id : InviteId} {user : UserId}
    {x : Option Transaction} {p : Program Membership} {b : Bool} (h : full → full')
    (hr : Redeeming full id user x p b) : Redeeming full' id user x p b := by
  cases hr with
  | waiting => exact waiting
  | opened => exact opened
  | taken => exact taken
  | entered => exact entered
  | refused he => exact refused fun e => h (he e)
  | ended he => exact ended fun e => h (he e)

theorem Invites.redeem_settled (id : InviteId) (user : UserId) :
    (Invites.redeem id user).settled = .call .begin (begun id user) := by
  rw [Invites.redeem_eq]
  rfl

theorem Redeeming.settled_eq {full : Prop} {id : InviteId} {user : UserId}
    {x : Option Transaction} {p : Program Membership} {b : Bool}
    (hp : Redeeming full id user x p b) : p.settled = p := by
  cases hp with
  | waiting => rw [Invites.redeem_settled, Invites.redeem_eq]
  | _ => rfl

theorem Redeeming.uncommitted {full : Prop} {id : InviteId} {user : UserId}
    {x : Option Transaction} {p : Program Membership} {b : Bool}
    (hp : Redeeming full id user x p b) (hd : ∀ r, p ≠ .done r) : b = false := by
  cases hp with
  | ended => exact absurd rfl (hd _)
  | _ => rfl

/-- The states of a task that holds the transaction `x`, if any. An invite is `full` when as many
were admitted by it as may be. -/
inductive Task.Sound (full : InviteId → Prop) : Option Transaction → Task → Prop
  | plain {o : Operation} {d : Draws} {p : Program o.Result} {calls : List (Method × Bool)}
      (ho : ∀ id user, o ≠ .redeem id user) (hp : Calls Call.IsPlain p) :
      Sound full none ⟨o, d, some p, calls⟩
  | making {actor : UserId} {group : GroupId} {role : Role} {uses : Int} {d : Draws}
      {p : Program Invite} {calls : List (Method × Bool)} (hp : Making d.invite uses p)
      (hc : calls.contains (.createInvite, true) = false) :
      Sound full none ⟨.createInvite actor group role uses, d, some p, calls⟩
  | redeeming {id : InviteId} {user : UserId} {x : Option Transaction} {d : Draws}
      {p : Program Membership} {calls : List (Method × Bool)}
      (hp : Redeeming (full id) id user x p (calls.contains (.commit, true))) :
      Sound full x ⟨.redeem id user, d, some p, calls⟩
  | dropped {o : Operation} {d : Draws} {calls : List (Method × Bool)}
      (hc : ∀ id user, o = .redeem id user → calls.contains (.commit, true) = false) :
      Sound full none ⟨o, d, none, calls⟩

namespace Task.Sound

variable {full full' : InviteId → Prop} {x : Option Transaction} {t : Task}

theorem mono (h : ∀ id, full id → full' id) (ht : t.Sound full x) : t.Sound full' x := by
  cases ht with
  | plain ho hp => exact plain ho hp
  | making hp hc => exact making hp hc
  | redeeming hp => exact redeeming (hp.mono (h _))
  | dropped hc => exact dropped hc

theorem start (policy : Policy) (now : Instant) (o : Operation) (d : Draws) :
    Task.Sound full none ⟨o, d, some (o.program policy now d), []⟩ := by
  cases o with
  | redeem id user => exact redeeming .waiting
  | createInvite actor group role uses => exact making (.create ..) rfl
  | _ =>
    refine plain nofun ((program_calls policy now d _).mono fun c hc => ?_)
    refine Operation.methods_plain ?_ ?_ hc
    · exact fun _ _ h => by cases h
    · exact fun _ _ _ _ h => by cases h

/-- A task that redeems an invite was dropped before its commit, or is in one of the states of a
redemption. -/
theorem redeems_cases (ht : t.Sound full x) {id : InviteId} (hr : t.redeems id = true) :
    t.rest = none ∧ t.committed = false ∨
      ∃ user d p calls, t = ⟨.redeem id user, d, some p, calls⟩ ∧
        Redeeming (full id) id user x p (calls.contains (.commit, true)) := by
  obtain ⟨o, d, rest, calls⟩ := t
  cases o with
  | redeem invite user =>
    cases of_decide_eq_true hr
    cases ht with
    | plain ho hp => exact absurd rfl (ho id user)
    | redeeming hp => exact .inr ⟨user, d, _, calls, rfl, hp⟩
    | dropped hc => exact .inl ⟨rfl, hc id user rfl⟩
  | _ => cases hr

/-- A redemption is committed if and only if it succeeds. -/
theorem committed_eq (ht : t.Sound full x) {id : InviteId} (hr : t.redeems id = true) :
    t.committed = t.succeeded := by
  rcases ht.redeems_cases hr with ⟨hn, hc⟩ | ⟨user, d, p, calls, rfl, hp⟩
  · rw [hc, Task.succeeded, hn]
  · rw [Task.committed]
    generalize calls.contains (.commit, true) = b at hp
    cases hp with
    | @ended r _ => cases r <;> rfl
    | _ => rfl

theorem full_of_exhausted (ht : t.Sound full x) {id : InviteId} (hr : t.redeems id = true)
    (he : t.refusal? = some .inviteExhausted) : full id := by
  rcases ht.redeems_cases hr with ⟨hn, -⟩ | ⟨user, d, p, calls, rfl, hp⟩
  · rw [Task.refusal?, hn] at he
    cases he
  · generalize calls.contains (.commit, true) = b at hp
    cases hp with
    | @ended r h =>
      cases r with
      | ok m => cases he
      | error e =>
        cases he
        exact h rfl
    | _ => cases he

end Task.Sound

end GroupAccess
