import GroupAccess.Proofs.Program.Calls

namespace GroupAccess

namespace Method

/-- Methods that only look. -/
def reads : Method → Bool
  | findUserByEmail | findUser | userExists | findToken | findRoleId | findRole | findGroup
  | findMembership | findInvite | inviteUsable | health => true
  | _ => false

/-- Methods of a redemption transaction, its beginning included. -/
def transacts : Method → Bool
  | begin | decrement | insertMembership | commit | rollback => true
  | _ => false

end Method

def Operation.methods : Operation → List Method
  | register _ _ => [.findUserByEmail, .createUser]
  | issueToken _ _ _ => [.findUserByEmail, .createToken]
  | login _ _ => [.findUserByEmail]
  | refresh _ => [.userExists]
  | resolveToken _ => [.findToken, .userExists]
  | issueApiKey _ => [.createToken]
  | findUser _ => [.findUser]
  | deleteUser _ => [.deleteUser]
  | purgeTokens => [.purgeTokens]
  | createGroup _ _ _ => [.createRole, .createGroup]
  | findGroup _ => [.findGroup]
  | resolveRole _ _ => [.findMembership, .findRole]
  | createRole _ => [.createRole]
  | findRoleId _ => [.findRoleId]
  | createInvite _ _ _ _ => [.findGroup, .findMembership, .findRole, .createRole, .createInvite]
  | redeem _ _ => [.begin, .decrement, .insertMembership, .commit, .rollback]
  | inviteUsable _ _ => [.inviteUsable]
  | health => [.health]

open Program

variable {ok : Call → Prop}

theorem resolveRole_calls {user : UserId} {group : GroupId} (hm : ok (.findMembership user group))
    (hr : ∀ id, ok (.findRole id)) : Calls ok (Groups.resolveRole user group) := by
  refine Calls.bind (Calls.ask _ hm) fun m => ?_
  refine Calls.bind (Calls.require _ _) fun m => ?_
  refine Calls.bind (Calls.ask _ (hr _)) fun r => ?_
  exact Calls.bind (Calls.require _ _) fun r => Calls.done _

theorem authenticate_calls {policy : PasswordPolicy} {email : String} {password : Password}
    (h : ∀ text, ok (.findUserByEmail text)) :
    Calls ok (Accounts.authenticate policy email password) := by
  refine Calls.bind (Calls.ask _ (h _)) fun found => ?_
  cases found with
  | none => exact Calls.count _ (Calls.done _)
  | some user => exact Calls.ite (Calls.done _) (Calls.count _ (Calls.done _))

theorem issueSigned_calls {policy : TokenPolicy} {now : Instant} {user : UserId}
    {audience : Audience} {lifetime : Span} {serial : Uuid} :
    Calls ok (Tokens.issueSigned policy now user audience lifetime serial) := by
  refine Calls.bind (Calls.done _) fun expiry => ?_
  exact Calls.bind (Calls.count _ (Calls.done _)) fun _ => Calls.done _

theorem issueSecret_calls {now : Instant} {user : UserId} {lifetime : Option Span} {id : TokenId}
    {secret : Secret} (h : ∀ r, r.digest = secret.digest → ok (.createToken r)) :
    Calls ok (Tokens.issueSecret now user lifetime id secret) := by
  refine Calls.bind (Calls.done _) fun expiry => ?_
  refine Calls.bind (Calls.ask _ (h _ rfl)) fun _ => ?_
  exact Calls.bind (Calls.count _ (Calls.done _)) fun _ => Calls.done _

theorem whileRegistered_calls {user : UserId} (h : ok (.userExists user)) :
    Calls ok (Tokens.whileRegistered user) :=
  Calls.bind (Calls.ask _ h) fun _ => Calls.ite (Calls.done _) (Calls.done _)

theorem resolve_calls {policy : TokenPolicy} {now : Instant} {text : String}
    (ht : ∀ d, ok (.findToken d)) (hu : ∀ u, ok (.userExists u)) :
    Calls ok (Tokens.resolve policy now text) := by
  refine Calls.bind (Calls.require _ _) fun presented => ?_
  cases presented with
  | signed header claims signature =>
    exact Calls.bind (Calls.require _ _) fun user => whileRegistered_calls (hu user)
  | secret s =>
    refine Calls.bind ?_ fun user => whileRegistered_calls (hu user)
    refine Calls.bind (Calls.ask _ (ht _)) fun record => ?_
    exact Calls.bind (Calls.require _ _) fun record => Calls.ite (Calls.done _) (Calls.done _)

theorem refresh_calls {policy : TokenPolicy} {now : Instant} {text : String} {serial : Uuid}
    (hu : ∀ u, ok (.userExists u)) : Calls ok (Tokens.refresh policy now text serial) := by
  refine Calls.bind (Calls.require _ _) fun presented => ?_
  cases presented with
  | signed header claims signature =>
    refine Calls.bind (Calls.require _ _) fun user => ?_
    exact Calls.bind (whileRegistered_calls (hu user)) fun user => issueSigned_calls
  | secret s => exact Calls.done _

theorem countingRefusal_calls {α : Type} {p : Program α} {event : Refusal → Event}
    (hp : Calls ok p) : Calls ok (p.countingRefusal event) :=
  Calls.catching hp fun _ => Calls.count _ (Calls.done _)

theorem createInvite_calls {actor : UserId} {group : GroupId} {role : Role} {uses : Int}
    {id : InviteId} {fresh : RoleId} (hg : ok (.findGroup group))
    (hm : ok (.findMembership actor group)) (hr : ∀ id, ok (.findRole id))
    (hc : ok (.createRole role fresh))
    (hi : ∀ roleId, ok (.createInvite ⟨id, group, roleId, uses, actor⟩)) :
    Calls ok (Invites.create actor group role uses id fresh) := by
  rw [Invites.create_eq]
  refine Calls.ite (Calls.done _) (Calls.bind (Calls.ask _ hg) fun found => ?_)
  refine Calls.ite (Calls.done _) (Calls.bind ?_ fun own => ?_)
  · exact Calls.catching (resolveRole_calls hm hr) fun e => Calls.done _
  refine Calls.ite (Calls.ite ?_ (Calls.done _)) (Calls.done _)
  refine Calls.bind (Calls.ask _ hc) fun roleId => ?_
  exact Calls.bind (Calls.ask _ (hi roleId)) fun _ => Calls.done _

theorem redeem_calls {invite : InviteId} {user : UserId} (h : ∀ c, c.method.transacts → ok c) :
    Calls ok (Invites.redeem invite user) := by
  refine Calls.bind (countingRefusal_calls ?_) fun m => Calls.count _ (Calls.done _)
  refine Calls.bind (Calls.ask _ (h _ rfl)) fun _ => ?_
  refine Calls.bind ?_ fun m => Calls.bind (Calls.ask _ (h _ rfl)) fun _ => Calls.done _
  refine Calls.catching ?_ fun e => Calls.call (h _ rfl) fun r => Calls.done _
  refine Calls.bind (Calls.ask _ (h _ rfl)) fun grant => ?_
  exact Calls.bind (Calls.ask _ (h _ rfl)) fun _ => Calls.done _

/-- Whatever the store answers, an operation calls only the methods that are listed for it. -/
theorem program_calls (policy : Policy) (now : Instant) (d : Draws) (o : Operation) :
    Calls (fun c => c.method ∈ o.methods) (o.program policy now d) := by
  cases o with
  | register email password =>
    rw [Operation.program, Accounts.register_eq]
    refine Calls.ite (Calls.bind (Calls.ask _ ?_) fun found => ?_) (Calls.done _)
    · simp [Operation.methods, Call.method]
    refine Calls.ite (Calls.done _) (Calls.bind (Calls.done _) fun _ => ?_)
    refine Calls.bind (Calls.done _) fun hash => Calls.bind (Calls.ask _ ?_) fun _ => Calls.done _
    simp [Operation.methods, Call.method]
  | issueToken email password kind =>
    simp only [Operation.program, Accounts.issueToken, bind_eq]
    refine Calls.bind (Calls.require _ _) fun kind => ?_
    refine Calls.bind (authenticate_calls fun _ => ?_) fun user => ?_
    · simp [Operation.methods, Call.method]
    cases kind with
    | signed => exact issueSigned_calls
    | secret => exact issueSecret_calls fun _ _ => by simp [Operation.methods, Call.method]
  | login email password =>
    refine Calls.bind (authenticate_calls fun _ => ?_) fun user => ?_
    · simp [Operation.methods, Call.method]
    exact Calls.bind issueSigned_calls fun _ => Calls.bind issueSigned_calls fun _ => Calls.done _
  | refresh token =>
    exact countingRefusal_calls (refresh_calls fun _ => by simp [Operation.methods, Call.method])
  | resolveToken token =>
    apply countingRefusal_calls
    apply resolve_calls <;> simp [Operation.methods, Call.method]
  | issueApiKey user => exact issueSecret_calls fun _ _ => by simp [Operation.methods, Call.method]
  | findUser user =>
    refine Calls.bind (Calls.ask _ ?_) fun u => Calls.require _ _
    simp [Operation.methods, Call.method]
  | createGroup owner name description =>
    rw [Operation.program, Groups.create_eq]
    refine Calls.ite (Calls.done _) (Calls.bind (Calls.ask _ ?_) fun role => ?_)
    · simp [Operation.methods, Call.method]
    refine Calls.bind (Calls.ask _ ?_) fun _ => Calls.done _
    simp [Operation.methods, Call.method]
  | findGroup group =>
    refine Calls.bind (Calls.ask _ ?_) fun g => Calls.require _ _
    simp [Operation.methods, Call.method]
  | resolveRole user group =>
    apply resolveRole_calls <;> simp [Operation.methods, Call.method]
  | createInvite actor group role uses =>
    apply createInvite_calls <;> simp [Operation.methods, Call.method]
  | redeem invite user =>
    apply redeem_calls
    intro c hc
    cases c <;> simp_all [Operation.methods, Call.method, Method.transacts]
  | deleteUser _ | purgeTokens | createRole _ | findRoleId _ | inviteUsable _ _ | health =>
    exact Calls.ask _ (by simp [Operation.methods, Call.method])

end GroupAccess
