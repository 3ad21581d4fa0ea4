import GroupAccess.Proofs.Session.Consistency

namespace GroupAccess

/-- In a session from `s`, the invite `i` is made with `role` after the steps `pre`. -/
def Service.Creates (s : Service) (steps pre : List Step) (role : Role) (i : Invite) : Prop :=
  ∃ uses d post,
    steps = pre ++ .perform (.createInvite i.createdBy i.group role uses) d :: post ∧
      ((s.after pre).perform (.createInvite i.createdBy i.group role uses) d).1 = .ok i

theorem Service.Creates.concat {s : Service} {steps pre : List Step} {role : Role} {i : Invite}
    (h : s.Creates steps pre role i) (x : Step) : s.Creates (steps ++ [x]) pre role i := by
  obtain ⟨uses, d, post, rfl, hi⟩ := h
  exact ⟨uses, d, post ++ [x], by rw [List.append_assoc, List.cons_append], hi⟩

/-- Apart from its owner, nobody has the permission `p` in the group, or is to have it. -/
structure Tables.Withheld (t : Tables) (group : GroupId) (p : Permission) : Prop where
  members : ∀ k m r, t.memberships.get? k = some m → m.group = group → m.isAdmin = false →
    t.roles.get? m.role = some r → r.effective.allows p = false
  invites : ∀ id i r, t.invites.get? id = some i → i.group = group →
    t.roles.get? i.role = some r → r.effective.allows p = false

namespace Tables.Withheld

variable {t : Tables} {group : GroupId} {p : Permission}

/-- Storing a role gives nobody another role. -/
theorem storeRole (h : t.Withheld group p) (hc : t.Consistent) (role : Role) {fresh : RoleId}
    (hf : t.roles.get? fresh = none) : (t.createRole role fresh).2.Withheld group p := by
  have hr {id : RoleId} {r : Role} (hid : t.roles.contains id = true)
      (hr : (t.createRole role fresh).2.roles.get? id = some r) : t.roles.get? id = some r := by
    obtain ⟨r', hr'⟩ := Table.contains_eq_true.1 hid
    rw [← hr, createRole_keeps hf hr', hr']
  constructor
  · intro k m r hm hg ha hrole
    rw [createRole_memberships] at hm
    exact h.members k m r hm hg ha (hr (hc.members.role k m hm) hrole)
  · intro id i r hi hg hrole
    rw [createRole_invites] at hi
    exact h.invites id i r hi hg (hr (hc.invites.role id i hi) hrole)

/-- Whoever makes an invite hands on what it holds, which is not `p` unless it is the owner. -/
theorem delegated (h : t.Withheld group p) (hc : t.Consistent) {actor : UserId} {own role : Role}
    (hr : t.roleOf actor group = .ok own) (hcov : own.covers role = true)
    (ho : (∃ g, t.groups.get? group = some g ∧ g.owner = actor) →
      role.effective.allows p = false) : role.effective.allows p = false := by
  obtain ⟨m, stored, hm, hs, rfl⟩ := roleOf_eq_ok hr
  have hk : (m.user, m.group) = (actor, group) := hc.members.key _ m hm
  cases ha : m.isAdmin with
  | true =>
    obtain ⟨g, hg, how⟩ := hc.members.admin _ m hm ha
    rw [(Prod.mk.inj hk).2] at hg
    exact ho ⟨g, hg, how.trans (Prod.mk.inj hk).1⟩
  | false =>
    have hp := h.members _ m stored hm (Prod.mk.inj hk).2 ha hs
    rw [Membership.effectiveRole, if_neg (Bool.eq_false_iff.1 ha)] at hcov
    apply Bool.eq_false_iff.2
    intro hrole
    have hown := Role.allows_of_covers hcov hrole
    rw [Role.effective_effective, hp] at hown
    cases hown

theorem delete (h : t.Withheld group p) (user : UserId) : (t.deleteUser user).Withheld group p := by
  constructor
  · intro k m r hm
    exact h.members k m r (Table.get?_filter_eq_some.1 hm).1
  · intro id i r hi
    exact h.invites id i r (Table.get?_filter_eq_some.1 hi).1

theorem invite (h : t.Withheld group p) {i : Invite} {role : Role}
    (hi : t.roles.get? i.role = some role)
    (hp : i.group = group → role.effective.allows p = false) :
    (t.createInvite i).Withheld group p := by
  refine ⟨h.members, fun id j r hj hg hr => ?_⟩
  rcases Table.get?_insert_cases hj with ⟨-, rfl⟩ | hj
  · cases hi.symm.trans hr
    exact hp hg
  · exact h.invites id j r hj hg hr

/-- A new member gets what its invite leads to, and is no administrator. -/
theorem enrol (h : t.Withheld group p) {id : InviteId} {i : Invite} {user : UserId}
    (hi : t.invites.get? id = some i) :
    (t.admitted id { user, group := i.group, role := i.role }).Withheld group p := by
  constructor
  · intro k m r hm hg ha hr
    rcases Table.get?_insert_cases hm with ⟨-, rfl⟩ | hm
    · exact h.invites id i r hi hg hr
    · exact h.members k m r hm hg ha hr
  · intro id' j r hj hg hr
    obtain ⟨j', hj', rfl⟩ := takeUse_invites hj
    exact h.invites id' j' r hj' hg hr

end Tables.Withheld

/-- An operation hands on nothing that is withheld, if no invite of the owner does. -/
theorem Outcome.withheld {now : Instant} {d : Draws} {t t' : Tables} {o : Operation}
    {r : Except Refusal o.Result} {group : GroupId} {p : Permission} (ho : Outcome now d t o r t')
    (hc : t.Consistent) (hf : t.Fresh d) (h : t.Withheld group p)
    (hown : ∀ actor role uses, o = .createInvite actor group role uses →
      (∃ g, t.groups.get? group = some g ∧ g.owner = actor) → role.effective.allows p = false) :
    t'.Withheld group p := by
  cases ho with
  | refused | kept => exact h
  | registered | secretStored | purged => exact ⟨h.members, h.invites⟩
  | deleted => exact h.delete _
  | roleStored | nameTaken => exact h.storeRole hc _ hf.role
  | founded =>
    have hs := h.storeRole hc .full hf.role
    refine ⟨fun k m r hm hg ha hr => ?_, hs.invites⟩
    rcases Table.get?_insert_cases hm with ⟨-, rfl⟩ | hm
    · cases ha
    · refine hs.members k m r ?_ hg ha hr
      rw [Tables.createRole_memberships]
      exact hm
  | invited hu hg hr hm hcov =>
    refine (h.storeRole hc _ hf.role).invite (Tables.createRole_get ..) fun he => ?_
    subst he
    exact h.delegated hc hr hcov (hown _ _ _ rfl)
  | redeemed hi => exact h.enrol hi

/-- The invite of an identifier stems from a step that made it, with a role that its maker held. -/
def Service.Traces (s : Service) (steps : List Step) (t : Tables) (id : InviteId) (i : Invite) :
    Prop :=
  ∃ pre role made own, s.Creates steps pre role made ∧ made.id = id ∧ made.group = i.group ∧
    t.roles.get? i.role = some role ∧
    (s.after pre).tables.roleOf made.createdBy made.group = .ok own ∧ own.covers role = true

/-- An invite stays traced as long as its role is stored. -/
theorem Service.Traces.mono {s : Service} {steps : List Step} {t t' : Tables} {id : InviteId}
    {i : Invite} (h : s.Traces steps t id i)
    (hr : ∀ id r, t.roles.get? id = some r → t'.roles.get? id = some r) (x : Step) :
    s.Traces (steps ++ [x]) t' id i := by
  obtain ⟨pre, role, made, own, hmade, hm, hg, hs, ho⟩ := h
  exact ⟨pre, role, made, own, hmade.concat x, hm, hg, hr _ _ hs, ho⟩

/-- Every invite is traced after an operation if it was before. -/
theorem Outcome.traces {s : Service} {steps : List Step} {o : Operation} {d : Draws} {t' : Tables}
    (ho : Outcome (s.after steps).clock d (s.after steps).tables o
      ((s.after steps).perform o d).1 t') (hf : (s.after steps).tables.Fresh d)
    (h : ∀ id i, (s.after steps).tables.invites.get? id = some i →
      s.Traces steps (s.after steps).tables id i)
    (id : InviteId) (i : Invite) (hi : t'.invites.get? id = some i) :
    s.Traces (steps ++ [.perform o d]) t' id i := by
  have hroles (role : Role) (id : RoleId) (r : Role)
      (hr : (s.after steps).tables.roles.get? id = some r) :
      ((s.after steps).tables.createRole role d.role).2.roles.get? id = some r :=
    Tables.createRole_keeps hf.role hr
  generalize hres : ((s.after steps).perform o d).1 = res at ho
  cases ho with
  | refused | kept | registered | secretStored | purged =>
    exact (h id i hi).mono (fun _ _ hr => hr) _
  | deleted => exact (h id i (Table.get?_filter_eq_some.1 hi).1).mono (fun _ _ hr => hr) _
  | roleStored | nameTaken | founded =>
    simp only [Tables.createRole_invites] at hi
    exact (h id i hi).mono (hroles _) _
  | invited hu hg hr hm hc =>
    simp only [Tables.createInvite, Tables.createRole_invites] at hi
    rcases Table.get?_insert_cases hi with ⟨rfl, rfl⟩ | hi
    · exact ⟨steps, _, _, _, ⟨_, d, [], rfl, hres⟩, rfl, rfl, Tables.createRole_get .., hr, hc⟩
    · exact (h id i hi).mono (hroles _) _
  | redeemed =>
    obtain ⟨j, hj, rfl⟩ := Tables.takeUse_invites hi
    exact (h id j hj).mono (fun _ _ hr => hr) _

section

variable {policy : Policy} {timeoutMillis : Nat} {clock : Instant} {steps : List Step}

theorem session_traces (h : DrawnOnce steps) (id : InviteId) (i : Invite)
    (hi : ((Service.start policy timeoutMillis clock).after steps).tables.invites.get? id =
      some i) :
    (Service.start policy timeoutMillis clock).Traces steps
      ((Service.start policy timeoutMillis clock).after steps).tables id i := by
  revert id i
  refine Service.session_induction (I := fun steps t => ∀ id i, t.invites.get? id = some i →
    (Service.start policy timeoutMillis clock).Traces steps t id i) ?_ ?_ ?_ steps h
  · intro id i hi
    cases hi
  · intro steps x t _ ht id i hi
    exact (ht id i hi).mono (fun _ _ hr => hr) x
  · intro steps o d t' _ ht hf ho
    exact ho.traces hf ht

/-- What the owner of a group puts into no invite is withheld in it. -/
theorem session_withheld {group : GroupId} {p : Permission} (h : DrawnOnce steps)
    (hown : ∀ pre role i, (Service.start policy timeoutMillis clock).Creates steps pre role i →
      i.group = group →
      (∃ g, ((Service.start policy timeoutMillis clock).after pre).tables.groups.get? group =
        some g ∧ g.owner = i.createdBy) → role.effective.allows p = false) :
    ((Service.start policy timeoutMillis clock).after steps).tables.Withheld group p := by
  revert hown
  refine Service.session_induction (I := fun steps t =>
    (∀ pre role i, (Service.start policy timeoutMillis clock).Creates steps pre role i →
      i.group = group →
      (∃ g, ((Service.start policy timeoutMillis clock).after pre).tables.groups.get? group =
        some g ∧ g.owner = i.createdBy) → role.effective.allows p = false) →
    t.Withheld group p) ?_ ?_ ?_ steps h
  · intro _
    refine ⟨fun k m r hm => ?_, fun id i r hi => ?_⟩
    · cases hm
    · cases hi
  · intro steps x t _ ih hown
    exact ih fun pre role i hi => hown pre role i (hi.concat x)
  · intro steps o d t' hd ih hf ho hown
    have hc : ((Service.start policy timeoutMillis clock).after steps).tables.Consistent :=
      Service.consistent_after hd.init
    have hw := ih fun pre role i hi => hown pre role i (hi.concat _)
    cases hres : (((Service.start policy timeoutMillis clock).after steps).perform o d).1 with
    | error e =>
      rw [ho.unchanged hc.knowsFull hres]
      exact hw
    | ok a =>
      refine ho.withheld hc hf hw fun actor role uses he howner => ?_
      subst he
      rw [hres] at ho
      obtain ⟨own, -, -, ha, -⟩ := ho.createInvite_ok
      have hmade : (Service.start policy timeoutMillis clock).Creates
          (steps ++ [.perform (.createInvite actor group role uses) d]) steps role a := by
        rw [ha] at hres ⊢
        exact ⟨uses, d, [], rfl, hres⟩
      refine hown steps role a hmade ?_ ?_
      · rw [ha]
      · rw [ha]
        exact howner

end

/-- Throughout a session, a member that is not the owner of a group has no permission there that no
invite of the owner carries. A redemption gives its user the role that the invite was made with, and
the maker of the invite held that role then. -/
theorem delegation_bounded (policy : Policy) (timeoutMillis : Nat) (clock : Instant)
    (steps : List Step) (h : DrawnOnce steps) :
    let s := Service.start policy timeoutMillis clock
    (∀ group p,
      (∀ pre role i, s.Creates steps pre role i → i.group = group →
        (∃ g, (s.after pre).tables.groups.get? group = some g ∧ g.owner = i.createdBy) →
        role.effective.allows p = false) →
      ∀ user d r, (∀ g, (s.after steps).tables.groups.get? group = some g → g.owner ≠ user) →
        ((s.after steps).perform (.resolveRole user group) d).1 = .ok r → r.allows p = false) ∧
    ∀ invite user d m, ((s.after steps).perform (.redeem invite user) d).1 = .ok m →
      m.user = user ∧ ∃ pre role i own, s.Creates steps pre role i ∧ i.id = invite ∧
        i.group = m.group ∧
        (∀ d', ((s.after pre).perform (.resolveRole i.createdBy i.group) d').1 = .ok own) ∧
        own.covers role.effective = true ∧
        ∀ d', (((s.after steps).perform (.redeem invite user) d).2.perform
          (.resolveRole user m.group) d').1 = .ok role.effective := by
  intro s
  have hc : (s.after steps).tables.Consistent := Service.consistent_after h
  have hs := Service.start_idle policy timeoutMillis clock
  constructor
  · intro group p hown user d r hu hr
    have hw := session_withheld h hown
    rw [(hs.after steps).perform_resolveRole] at hr
    obtain ⟨m, stored, hm, hstored, rfl⟩ := Tables.roleOf_eq_ok hr
    have hk : (m.user, m.group) = (user, group) := hc.members.key _ m hm
    have ha : m.isAdmin = false := by
      apply Bool.eq_false_iff.2
      intro ha
      obtain ⟨g, hg, how⟩ := hc.members.admin _ m hm ha
      rw [(Prod.mk.inj hk).2] at hg
      exact hu g hg (how.trans (Prod.mk.inj hk).1)
    rw [Membership.effectiveRole, if_neg (Bool.eq_false_iff.1 ha)]
    exact hw.members _ m stored hm (Prod.mk.inj hk).2 ha hstored
  · intro invite user d m hm
    obtain ⟨t, c, hperf, ho⟩ := (hs.after steps).perform_outcome (.redeem invite user) d
    rw [hm] at ho
    obtain ⟨i, hi, hu, hn, rfl, rfl⟩ := ho.redeem_ok
    obtain ⟨pre, role, made, own, hmade, hid, hg, hrole, hown, hcov⟩ := session_traces h invite i hi
    refine ⟨rfl, pre, role, made, own, hmade, hid, hg, fun d' => ?_, ?_, fun d' => ?_⟩
    · rw [(hs.after pre).perform_resolveRole, hown]
    · rw [Role.covers_effective, hcov]
    · rw [hperf, ((hs.after steps).leaving _ c).perform_resolveRole, Service.leaving_tables]
      exact Tables.roleOf_admitted invite hrole

/-- The one invite of the sample is for plain members, so the guest manages no tasks. -/
theorem delegation_bounded_sample :
    DrawnOnce Sample.steps ∧
      ((Sample.service.after Sample.steps).perform (.resolveRole Sample.guest Sample.group)
        (Sample.draws 4)).1 = .ok .member ∧
      Role.member.allows .manageTasks = false ∧
      ((Sample.service.after Sample.steps).perform (.redeem Sample.invite Sample.stranger)
        (Sample.draws 4)).1 = .ok ⟨Sample.stranger, Sample.group, ⟨Sample.uuid 2⟩, false⟩ ∧
      ∃ pre role i, Sample.service.Creates Sample.steps pre role i ∧ i.id = Sample.invite ∧
        ∃ own : Role, own.covers role.effective = true := by
  have hrole : ((Sample.service.after Sample.steps).perform
      (.resolveRole Sample.guest Sample.group) (Sample.draws 4)).1 = .ok .member := rfl
  have hredeem : ((Sample.service.after Sample.steps).perform
      (.redeem Sample.invite Sample.stranger) (Sample.draws 4)).1 =
        .ok ⟨Sample.stranger, Sample.group, ⟨Sample.uuid 2⟩, false⟩ := rfl
  have hb := delegation_bounded Sample.policy 5000 Sample.clock Sample.steps Sample.drawnOnce
  refine ⟨Sample.drawnOnce, hrole, ?_, hredeem, ?_⟩
  · refine hb.1 Sample.group .manageTasks ?_ Sample.guest (Sample.draws 4) .member ?_ hrole
    · rintro pre role i ⟨uses, d, post, hs, -⟩ - -
      have hm : .perform (.createInvite i.createdBy i.group role uses) d ∈ Sample.steps := by
        rw [hs]
        exact List.mem_append_right _ (List.mem_cons_self ..)
      simp only [Sample.steps, List.mem_cons, Step.perform.injEq, Operation.createInvite.injEq,
        reduceCtorEq, false_and, false_or, or_false, List.not_mem_nil] at hm
      rw [hm.1.2.2.1]
      rfl
    · intro g (hg : (Sample.service.after Sample.steps).tables.groups.get? Sample.group =
        some g) how
      have ho : ((Sample.service.after Sample.steps).tables.groups.get? Sample.group).map
          Group.owner = some Sample.owner := rfl
      rw [hg, Option.map_some, how] at ho
      exact absurd ho (by decide)
  · obtain ⟨-, pre, role, i, own, hmade, hid, -, -, hcov, -⟩ := hb.2 _ _ _ _ hredeem
    exact ⟨pre, role, i, hmade, hid, own, hcov⟩

end GroupAccess
