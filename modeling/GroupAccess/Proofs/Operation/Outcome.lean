import GroupAccess.Proofs.Operation.Footprint
import GroupAccess.Proofs.Service.Alone

namespace GroupAccess

/-- Operations that can succeed without a write. -/
def Operation.mayKeep : Operation → Bool
  | issueToken _ _ _ | login _ _ | refresh _ | resolveToken _ | findUser _ | deleteUser _
  | findGroup _ | resolveRole _ _ | findRoleId _ | inviteUsable _ _ | health => true
  | _ => false

/-- Operations that can store a secret. -/
def Operation.storesSecret : Operation → Bool
  | issueToken _ _ _ | issueApiKey _ => true
  | _ => false

/-- The user in whose name an operation stores rows without asking whether it is registered. -/
def Operation.writesFor? : Operation → Option UserId
  | issueApiKey user => some user
  | createGroup owner _ _ => some owner
  | redeem _ user => some user
  | _ => none

theorem Operation.writesFor?_of_mayKeep {o : Operation} (h : o.mayKeep = true) :
    o.writesFor? = none := by
  cases o <;> first | rfl | cases h

/-- What an operation on the tables `t` answers and leaves, with all that it found. -/
inductive Outcome (now : Instant) (d : Draws) (t : Tables) :
    (o : Operation) → Except Refusal o.Result → Tables → Prop
  | refused {o : Operation} (e : Refusal) : Outcome now d t o (.error e) t
  | kept {o : Operation} (a : o.Result) (ho : o.mayKeep = true) : Outcome now d t o (.ok a) t
  | registered {email : String} {password : Password} {u : User} (hid : u.id = d.user)
      (he : u.email = Email.normalize email) (hv : Email.isValid u.email = true)
      (hf : t.findUserByEmail u.email = none) :
      Outcome now d t (.register email password) (.ok u)
        { t with users := t.users.insert u.id u }
  | secretStored {o : Operation} {a : o.Result} {s : SecretRecord} (ho : o.storesSecret = true)
      (hs : s.digest = d.secret.digest) (hf : t.tokens.contains s.digest = false)
      (hu : o.writesFor? = some s.user ∨
        o.writesFor? = none ∧ ∃ u ∈ t.users.rows, u.id = s.user) :
      Outcome now d t o (.ok a) { t with tokens := t.tokens.insert s.digest s }
  | deleted {u : UserId} (hu : t.users.contains u = true) :
      Outcome now d t (.deleteUser u) (.ok true) (t.deleteUser u)
  | purged {n : Nat} : Outcome now d t .purgeTokens (.ok n) (t.purgeTokens now)
  | roleStored {r : Role} :
      Outcome now d t (.createRole r) (.ok (t.createRole r d.role).1) (t.createRole r d.role).2
  /-- The full role is stored before the name is looked at. -/
  | nameTaken {owner : UserId} {name : String} {description : Option String} {g : Group}
      (hg : g ∈ t.groups.rows) (hn : g.name = Text.trim name) :
      Outcome now d t (.createGroup owner name description) (.error .groupNameTaken)
        (t.createRole .full d.role).2
  | founded {owner : UserId} {name : String} {description : Option String} {g : Group}
      (hid : g.id = d.group) (ho : g.owner = owner) (hn : g.name = Text.trim name)
      (he : (Text.trim name).isEmpty = false) (hf : ∀ h ∈ t.groups.rows, h.name ≠ g.name) :
      Outcome now d t (.createGroup owner name description) (.ok g)
        { (t.createRole .full d.role).2 with
          groups := t.groups.insert g.id g
          memberships := t.memberships.insert (g.owner, g.id)
            (.owner g.owner g.id (t.createRole .full d.role).1) }
  | invited {actor : UserId} {group : GroupId} {role : Role} {uses : Int} {own : Role} {g : Group}
      (hu : 0 < uses) (hg : t.groups.get? group = some g) (hr : t.roleOf actor group = .ok own)
      (hm : own.allows .manageMembers = true) (hc : own.covers role = true) :
      Outcome now d t (.createInvite actor group role uses)
        (.ok ⟨d.invite, group, (t.createRole role d.role).1, uses, actor⟩)
        ((t.createRole role d.role).2.createInvite
          ⟨d.invite, group, (t.createRole role d.role).1, uses, actor⟩)
  | redeemed {invite : InviteId} {user : UserId} {i : Invite}
      (hi : t.invites.get? invite = some i) (hu : 0 < i.remaining)
      (hm : t.memberships.get? (user, i.group) = none) :
      Outcome now d t (.redeem invite user) (.ok { user, group := i.group, role := i.role })
        (t.admitted invite { user, group := i.group, role := i.role })

namespace Outcome

variable {now : Instant} {d : Draws} {t : Tables}

theorem of_registered (policy : PasswordPolicy) (email : String) (password : Password) :
    Outcome now d t (.register email password)
      (t.registered policy now email password d.user d.salt).1
      (t.registered policy now email password d.user d.salt).2 := by
  unfold Tables.registered
  split
  · exact .refused _
  split
  · exact .refused _
  split
  · exact .refused _
  · exact .refused _
  · rename_i hv hf _ _ _ hash _ _
    exact .registered (u := ⟨d.user, Email.normalize email, hash, now⟩) rfl rfl
      (eq_true_of_ne_false hv) (Option.not_isSome_iff_eq_none.1 hf)

theorem of_groupFounded (owner : UserId) (name : String) (description : Option String) :
    Outcome now d t (.createGroup owner name description)
      (t.groupFounded now owner name description d.group d.role).1
      (t.groupFounded now owner name description d.group d.role).2 := by
  unfold Tables.groupFounded
  split
  · exact .refused _
  rename_i he
  dsimp only [Tables.createGroup]
  rw [Tables.createRole_groups, Tables.createRole_memberships]
  by_cases hn : t.groups.rows.any fun h => h.name = Text.trim name
  · simp only [if_pos hn]
    obtain ⟨g, hg, hn⟩ := List.any_eq_true.1 hn
    exact .nameTaken hg (of_decide_eq_true hn)
  · simp only [if_neg hn]
    refine .founded (g := ⟨d.group, Text.trim name, description.getD "", owner, now⟩) rfl rfl rfl
      (Bool.eq_false_iff.2 he) ?_
    intro h hh heq
    exact hn (List.any_eq_true.2 ⟨h, hh, decide_eq_true heq⟩)

theorem of_invited (actor : UserId) (group : GroupId) (role : Role) (uses : Int) :
    Outcome now d t (.createInvite actor group role uses)
      (t.invited actor group role uses d.invite d.role).1
      (t.invited actor group role uses d.invite d.role).2 := by
  unfold Tables.invited
  split
  · exact .refused _
  split
  · exact .refused _
  split
  · exact .refused _
  split
  · split
    · rename_i hu hg _ own hr hm hc
      obtain ⟨g, hg⟩ := Option.ne_none_iff_exists'.1 fun hn => hg (Option.isNone_iff_eq_none.2 hn)
      exact .invited (by omega) hg hr hm hc
    · exact .refused _
  · exact .refused _

theorem of_redeemed (fails : Bool) (invite : InviteId) (user : UserId) :
    Outcome now d t (.redeem invite user) (t.redeemed fails invite user).1
      (t.redeemed fails invite user).2 := by
  cases hi : t.invites.get? invite with
  | none =>
    rw [Tables.redeemed_missing hi]
    exact .refused _
  | some i =>
    cases hu : i.isExhausted with
    | true =>
      rw [Tables.redeemed_exhausted hi hu]
      exact .refused _
    | false =>
      cases hm : t.memberships.contains (user, i.group) with
      | true =>
        rw [Tables.redeemed_member hi hu hm]
        exact .refused _
      | false =>
        cases fails with
        | true =>
          rw [Tables.redeemed_uncommitted hi hu hm]
          exact .refused _
        | false =>
          rw [Tables.redeemed_admitted hi hu hm]
          refine .redeemed hi ?_ (Table.contains_eq_false.1 hm)
          exact Int.not_le.1 (of_decide_eq_false hu)

theorem of_issued {email : String} {password : Password} {kind : String} (fails : Bool)
    (policy : TokenPolicy) {user : User} (hrow : user ∈ t.users.rows) (known : TokenKind) :
    Outcome now d t (.issueToken email password kind)
      (t.issued fails policy now user.id d known).1
      (t.issued fails policy now user.id d known).2 := by
  cases known with
  | signed =>
    rw [Tables.issued]
    cases Tokens.signed policy now user.id .access policy.accessLifetime d.serial with
    | error e => exact .refused e
    | ok a => exact .kept (o := .issueToken email password kind) a rfl
  | secret =>
    rw [Tables.issued]
    rcases t.secretIssued_cases fails now user.id (some policy.secretLifetime) d.token d.secret with
      ⟨e, he⟩ | ⟨expiry, -, hn, he⟩
    · rw [he]
      exact .refused e
    · rw [he]
      exact .secretStored (s := ⟨d.token, user.id, d.secret.digest, expiry, now⟩) rfl rfl hn
        (.inr ⟨rfl, user, hrow, rfl⟩)

/-- What the making of an invite that succeeds has found and leaves. -/
theorem createInvite_ok {t' : Tables} {actor : UserId} {group : GroupId} {role : Role} {uses : Int}
    {i : Invite} (ho : Outcome now d t (.createInvite actor group role uses) (.ok i) t') :
    ∃ own, t.roleOf actor group = .ok own ∧ own.covers role = true ∧
      i = ⟨d.invite, group, (t.createRole role d.role).1, uses, actor⟩ ∧
      t' = (t.createRole role d.role).2.createInvite i := by
  cases ho with
  | kept _ ho => cases ho
  | secretStored ho => cases ho
  | invited hu hg hr hm hc => exact ⟨_, hr, hc, rfl, rfl⟩

/-- What a redemption that succeeds has found and leaves. -/
theorem redeem_ok {t' : Tables} {invite : InviteId} {user : UserId} {m : Membership}
    (ho : Outcome now d t (.redeem invite user) (.ok m) t') :
    ∃ i, t.invites.get? invite = some i ∧ 0 < i.remaining ∧
      t.memberships.get? (user, i.group) = none ∧
      m = { user, group := i.group, role := i.role } ∧ t' = t.admitted invite m := by
  cases ho with
  | kept _ ho => cases ho
  | secretStored ho => cases ho
  | redeemed hi hu hm => exact ⟨_, hi, hu, hm, rfl, rfl⟩

end Outcome

/-- If there is a group, the full role is stored. -/
def Tables.KnowsFull (t : Tables) : Prop :=
  ∀ id g, t.groups.get? id = some g → ∃ role, t.roles.get? role = some .full

/-- The full role is stored with the first group, so a name that is taken is refused before any
write. -/
theorem Outcome.unchanged {now : Instant} {d : Draws} {t t' : Tables} {o : Operation}
    {r : Except Refusal o.Result} {e : Refusal} (ho : Outcome now d t o r t')
    (h : t.KnowsFull) (hr : r = .error e) : t' = t := by
  cases ho with
  | refused => rfl
  | nameTaken hg =>
    obtain ⟨id, hg⟩ := Table.mem_rows.1 hg
    obtain ⟨role, hrole⟩ := h id _ hg
    exact Tables.createRole_stored hrole
  | kept | registered | secretStored | deleted | purged | roleStored | founded | invited
  | redeemed => cases hr

namespace Service

variable {s : Service} {d : Draws} {o : Operation}

theorem perform_eq {r : Except Refusal o.Result} {s' : Service}
    (hr : run worker (o.program s.policy s.clock d) s = (some r, s')) :
    s.perform o d = (r, s'.count (.operation o.name)) := by
  rw [perform, hr]
  rfl

namespace Idle

theorem outcome_of_run {r : Except Refusal o.Result} {t : Tables} {c : Counters}
    (hr : run worker (o.program s.policy s.clock d) s = (some r, s.leaving t c))
    (ho : Outcome s.clock d s.tables o r t) :
    ∃ t c, (s.perform o d).2 = s.leaving t c ∧
      Outcome s.clock d s.tables o (s.perform o d).1 t := by
  rw [perform_eq hr]
  exact ⟨t, _, rfl, ho⟩

/-- An operation that only looks leaves all but the counters as it was. -/
theorem run_program_reads (h : s.Idle) (hm : o.methods.all Method.reads = true) :
    ∃ r c, run worker (o.program s.policy s.clock d) s = (some r, s.leaving s.tables c) :=
  h.run_reads ((program_calls s.policy s.clock d o).mono fun c => List.all_eq_true.1 hm c.method)

theorem perform_reads (h : s.Idle) (hm : o.methods.all Method.reads = true) :
    ∃ c, (s.perform o d).2 = s.leaving s.tables c := by
  obtain ⟨r, c, hr⟩ := h.run_program_reads (d := d) hm
  rw [perform_eq hr]
  exact ⟨_, rfl⟩

theorem outcome_of_reads (h : s.Idle) (ho : o.mayKeep = true)
    (hm : o.methods.all Method.reads = true) :
    ∃ t c, (s.perform o d).2 = s.leaving t c ∧
      Outcome s.clock d s.tables o (s.perform o d).1 t := by
  obtain ⟨r, c, hr⟩ := h.run_program_reads (d := d) hm
  refine outcome_of_run hr ?_
  cases r with
  | error e => exact .refused e
  | ok a => exact .kept a ho

theorem outcome_of_issueToken (h : s.Idle) (email : String) (password : Password) (kind : String) :
    ∃ t c, (s.perform (.issueToken email password kind) d).2 = s.leaving t c ∧
      Outcome s.clock d s.tables (.issueToken email password kind)
        (s.perform (.issueToken email password kind) d).1 t := by
  cases hk : TokenKind.ofText? kind with
  | none =>
    refine outcome_of_run (t := s.tables) (c := s.counters) (r := .error (.badTokenKind kind)) ?_
      (.refused _)
    simp only [Operation.program, Accounts.issueToken, hk]
    rfl
  | some kind' =>
    obtain ⟨c, hr⟩ := h.run_issueToken (k := worker) hk s.policy s.clock email password d
    cases hu : s.tables.authenticated s.policy.passwords email password with
    | none =>
      rw [hu] at hr
      exact outcome_of_run hr (.refused _)
    | some user =>
      rw [hu] at hr
      have hrow := List.mem_of_find?_eq_some (Option.filter_eq_some_iff.1 hu).1
      exact outcome_of_run hr (.of_issued _ _ hrow _)

/-- An operation that is carried out alone ends in one of the listed ways. -/
theorem perform_outcome (h : s.Idle) (o : Operation) (d : Draws) :
    ∃ t c, (s.perform o d).2 = s.leaving t c ∧
      Outcome s.clock d s.tables o (s.perform o d).1 t := by
  cases o with
  | register email password =>
    have hr := h.run_register (k := worker) s.policy.passwords s.clock email password d.user d.salt
    exact outcome_of_run hr (.of_registered _ _ _)
  | issueToken email password kind => exact h.outcome_of_issueToken email password kind
  | issueApiKey user =>
    obtain ⟨c, hr⟩ := h.run_issueSecret (k := worker) s.clock user none d.token d.secret
    rcases s.tables.secretIssued_cases s.store.failsTokenWrites s.clock user none d.token
      d.secret with ⟨e, he⟩ | ⟨expiry, -, hn, he⟩
    · rw [he] at hr
      exact outcome_of_run hr (.refused e)
    · rw [he] at hr
      exact outcome_of_run hr
        (.secretStored (s := ⟨d.token, user, d.secret.digest, expiry, s.clock⟩) rfl rfl hn
          (.inl rfl))
  | deleteUser user =>
    have hr := h.run_deleteUser (k := worker) user
    cases hu : s.tables.users.contains user with
    | true =>
      rw [hu] at hr
      exact outcome_of_run hr (.deleted hu)
    | false =>
      rw [hu] at hr
      exact outcome_of_run hr (.kept (o := .deleteUser user) false rfl)
  | purgeTokens =>
    have hw := h.atomic fun t =>
      (.ok (t.tokens.size - (t.purgeTokens s.clock).tokens.size), t.purgeTokens s.clock)
    exact outcome_of_run (h.run_ask (c := .purgeTokens s.clock) hw) .purged
  | createGroup owner name description =>
    exact outcome_of_run (h.run_groupFounded _ _ _ _ _ _) (.of_groupFounded _ _ _)
  | createRole role =>
    have hw := h.atomic fun t => (.ok (t.createRole role d.role).1, (t.createRole role d.role).2)
    exact outcome_of_run (h.run_ask (c := .createRole role d.role) hw) .roleStored
  | createInvite actor group role uses =>
    exact outcome_of_run (h.run_invited _ _ _ _ _ _) (.of_invited _ _ _ _)
  | redeem invite user =>
    obtain ⟨c, hr⟩ := h.run_redeemed (k := worker) invite user
    exact outcome_of_run hr (.of_redeemed _ _ _)
  | login _ _ | refresh _ | resolveToken _ | findUser _ | findGroup _ | resolveRole _ _
  | findRoleId _ | inviteUsable _ _ | health =>
    exact h.outcome_of_reads rfl rfl

theorem perform_resolveRole (h : s.Idle) (user : UserId) (group : GroupId) (d : Draws) :
    s.perform (.resolveRole user group) d =
      (s.tables.roleOf user group, s.count (.operation "resolve_role")) :=
  perform_eq (h.run_resolveRole user group)

theorem perform_error {e : Refusal} (h : s.Idle) (hf : s.tables.KnowsFull)
    (he : (s.perform o d).1 = .error e) : (s.perform o d).2.tables = s.tables := by
  obtain ⟨t, c, hs, ho⟩ := h.perform_outcome o d
  rw [hs]
  exact ho.unchanged hf he

end Idle

end Service

end GroupAccess
