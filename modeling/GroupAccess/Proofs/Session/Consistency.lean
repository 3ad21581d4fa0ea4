import GroupAccess.Proofs.Session.Basic
import GroupAccess.Proofs.Text.Lowercase

namespace GroupAccess

/-- The accounts: their addresses are in normal form, and no two have the same. -/
structure UsersSound (users : Table UserId User) : Prop where
  key : ∀ id u, users.get? id = some u → u.id = id
  normal : ∀ id u, users.get? id = some u → Email.normalize u.email = u.email
  distinct : ∀ a b u v, users.get? a = some u → users.get? b = some v → u.email = v.email → a = b

structure TokensSound (tokens : Table String SecretRecord) : Prop where
  key : ∀ digest s, tokens.get? digest = some s → s.digest = digest

structure RolesSound (roles : Table RoleId Role) : Prop where
  distinct : ∀ a b r, roles.get? a = some r → roles.get? b = some r → a = b

/-- The groups: their names are trimmed and not empty, and no two have the same. -/
structure GroupsSound (groups : Table GroupId Group) : Prop where
  key : ∀ id g, groups.get? id = some g → g.id = id
  trimmed : ∀ id g, groups.get? id = some g → Text.trim g.name = g.name ∧ g.name ≠ ""
  distinct : ∀ a b g h, groups.get? a = some g → groups.get? b = some h → g.name = h.name → a = b

/-- The memberships: the owner of each group is a member with the full role, and it alone is an
administrator. -/
structure MembersSound (roles : Table RoleId Role) (groups : Table GroupId Group)
    (memberships : Table (UserId × GroupId) Membership) : Prop where
  key : ∀ k m, memberships.get? k = some m → m.key = k
  group : ∀ k m, memberships.get? k = some m → groups.contains m.group = true
  role : ∀ k m, memberships.get? k = some m → roles.contains m.role = true
  owner : ∀ id g, groups.get? id = some g → ∃ m, memberships.get? (g.owner, id) = some m ∧
    m.isAdmin = true ∧ roles.get? m.role = some .full
  admin : ∀ k m, memberships.get? k = some m → m.isAdmin = true →
    ∃ g, groups.get? m.group = some g ∧ g.owner = m.user

structure InvitesSound (roles : Table RoleId Role) (groups : Table GroupId Group)
    (invites : Table InviteId Invite) : Prop where
  key : ∀ id i, invites.get? id = some i → i.id = id
  group : ∀ id i, invites.get? id = some i → groups.contains i.group = true
  role : ∀ id i, invites.get? id = some i → roles.contains i.role = true
  uses : ∀ id i, invites.get? id = some i → 0 ≤ i.remaining

structure Tables.Consistent (t : Tables) : Prop where
  users : UsersSound t.users
  tokens : TokensSound t.tokens
  roles : RolesSound t.roles
  groups : GroupsSound t.groups
  members : MembersSound t.roles t.groups t.memberships
  invites : InvitesSound t.roles t.groups t.invites

section

variable {roles roles' : Table RoleId Role} {groups : Table GroupId Group}
  {memberships : Table (UserId × GroupId) Membership} {invites : Table InviteId Invite}

/-- Memberships stay sound when roles are added. -/
theorem MembersSound.mono (h : MembersSound roles groups memberships)
    (hr : ∀ id r, roles.get? id = some r → roles'.get? id = some r) :
    MembersSound roles' groups memberships := by
  refine ⟨h.key, h.group, fun k m hm => ?_, fun id g hg => ?_, h.admin⟩
  · obtain ⟨r, hm⟩ := Table.contains_eq_true.1 (h.role k m hm)
    exact Table.contains_eq_true.2 ⟨r, hr _ r hm⟩
  · obtain ⟨m, hm, ha, hf⟩ := h.owner id g hg
    exact ⟨m, hm, ha, hr _ _ hf⟩

theorem InvitesSound.mono (h : InvitesSound roles groups invites)
    (hr : ∀ id r, roles.get? id = some r → roles'.get? id = some r) :
    InvitesSound roles' groups invites := by
  refine ⟨h.key, h.group, fun id i hi => ?_, h.uses⟩
  obtain ⟨r, hi⟩ := Table.contains_eq_true.1 (h.role id i hi)
  exact Table.contains_eq_true.2 ⟨r, hr _ r hi⟩

end

/-- No role is stored twice, not even under an identifier that is in use. -/
theorem RolesSound.createRole {t : Tables} (h : RolesSound t.roles) (r : Role) (fresh : RoleId) :
    RolesSound (t.createRole r fresh).2.roles := by
  constructor
  intro a b r' ha hb
  rcases Tables.createRole_roles ha with ha' | ⟨rfl, rfl, hn⟩ <;>
    rcases Tables.createRole_roles hb with hb' | ⟨rfl, hr, hn'⟩
  · exact h.distinct a b r' ha' hb'
  · exact absurd (hr ▸ ha') (Tables.findRoleId_eq_none hn' a)
  · exact absurd hb' (Tables.findRoleId_eq_none hn b)
  · rfl

namespace UsersSound

variable {t : Tables}

theorem register (h : UsersSound t.users) {u : User} (he : Email.normalize u.email = u.email)
    (hf : t.findUserByEmail u.email = none) : UsersSound (t.users.insert u.id u) := by
  have hn (id : UserId) (v : User) (hv : t.users.get? id = some v) : v.email ≠ u.email := by
    have hm := List.find?_eq_none.1 hf v (Table.mem_rows.2 ⟨id, hv⟩)
    exact of_decide_eq_false (Bool.eq_false_iff.2 hm)
  refine ⟨?_, ?_, ?_⟩
  · intro id v hv
    rcases Table.get?_insert_cases hv with ⟨rfl, rfl⟩ | hv
    · rfl
    · exact h.key id v hv
  · intro id v hv
    rcases Table.get?_insert_cases hv with ⟨rfl, rfl⟩ | hv
    · exact he
    · exact h.normal id v hv
  · intro a b v w hv hw heq
    rcases Table.get?_insert_cases hv with ⟨rfl, rfl⟩ | hv' <;>
      rcases Table.get?_insert_cases hw with ⟨rfl, rfl⟩ | hw'
    · rfl
    · exact absurd heq.symm (hn b w hw')
    · exact absurd heq (hn a v hv')
    · exact h.distinct a b v w hv' hw' heq

theorem erase {users : Table UserId User} (h : UsersSound users) (user : UserId) :
    UsersSound (users.erase user) := by
  refine ⟨fun id u hu => ?_, fun id u hu => ?_, fun a b u v hu hv => ?_⟩
  · exact h.key id u (Table.get?_filter_eq_some.1 hu).1
  · exact h.normal id u (Table.get?_filter_eq_some.1 hu).1
  · exact h.distinct a b u v (Table.get?_filter_eq_some.1 hu).1 (Table.get?_filter_eq_some.1 hv).1

/-- An account is found by its address, because no other has the same. -/
theorem findUserByEmail_eq_some (h : UsersSound t.users) {u : User} {email : String} :
    t.findUserByEmail email = some u ↔ t.users.get? u.id = some u ∧ u.email = email := by
  constructor
  · intro hf
    obtain ⟨id, hget⟩ := Table.mem_rows.1 (List.mem_of_find?_eq_some hf)
    have hkey : u.id = id := h.key id u hget
    have hemail := List.find?_some hf
    exact ⟨hkey ▸ hget, of_decide_eq_true hemail⟩
  · rintro ⟨hget, rfl⟩
    cases hf : t.findUserByEmail u.email with
    | none =>
      have hno := List.find?_eq_none.1 hf u (Table.mem_rows.2 ⟨u.id, hget⟩)
      exact absurd (decide_eq_true rfl) hno
    | some v =>
      obtain ⟨id, hv⟩ := Table.mem_rows.1 (List.mem_of_find?_eq_some hf)
      have hfound := List.find?_some hf
      have hemail : v.email = u.email := of_decide_eq_true hfound
      cases h.distinct id u.id v u hv hget hemail
      cases hv.symm.trans hget
      rfl

end UsersSound

namespace Tables.Consistent

variable {t : Tables}

theorem empty : Consistent {} := by
  refine ⟨⟨?_, ?_, ?_⟩, ⟨?_⟩, ⟨?_⟩, ⟨?_, ?_, ?_⟩, ⟨?_, ?_, ?_, ?_, ?_⟩, ⟨?_, ?_, ?_, ?_⟩⟩
  all_goals
    intros
    simp_all

theorem register (h : t.Consistent) {u : User} (he : Email.normalize u.email = u.email)
    (hf : t.findUserByEmail u.email = none) :
    Consistent { t with users := t.users.insert u.id u } :=
  ⟨h.users.register he hf, h.tokens, h.roles, h.groups, h.members, h.invites⟩

theorem storeSecret (h : t.Consistent) (s : SecretRecord) :
    Consistent { t with tokens := t.tokens.insert s.digest s } := by
  refine ⟨h.users, ⟨fun digest r hr => ?_⟩, h.roles, h.groups, h.members, h.invites⟩
  rcases Table.get?_insert_cases hr with ⟨rfl, rfl⟩ | hr
  · rfl
  · exact h.tokens.key digest r hr

theorem purge (h : t.Consistent) (now : Instant) : (t.purgeTokens now).Consistent := by
  refine ⟨h.users, ⟨fun digest s hs => ?_⟩, h.roles, h.groups, h.members, h.invites⟩
  exact h.tokens.key digest s (Table.get?_filter_eq_some.1 hs).1

/-- What is deleted with a user is all that refers to it or to one of its groups. -/
theorem delete (h : t.Consistent) (user : UserId) : (t.deleteUser user).Consistent := by
  have hg {id : GroupId} {g : Group} (hg : (t.deleteUser user).groups.get? id = some g) :
      t.groups.get? id = some g ∧ g.owner ≠ user := by
    obtain ⟨hg, ho⟩ := Table.get?_filter_eq_some.1 hg
    exact ⟨hg, of_decide_eq_true ho⟩
  have hm {k : UserId × GroupId} {m : Membership}
      (hm : (t.deleteUser user).memberships.get? k = some m) :
      t.memberships.get? k = some m ∧ k.1 ≠ user ∧
        (t.deleteUser user).groups.contains k.2 = true := by
    obtain ⟨hm, hk⟩ := Table.get?_filter_eq_some.1 hm
    exact ⟨hm, of_decide_eq_true (Bool.and_eq_true_iff.1 hk).1, (Bool.and_eq_true_iff.1 hk).2⟩
  have hi {id : InviteId} {i : Invite} (hi : (t.deleteUser user).invites.get? id = some i) :
      t.invites.get? id = some i ∧ (t.deleteUser user).groups.contains i.group = true := by
    obtain ⟨hi, hk⟩ := Table.get?_filter_eq_some.1 hi
    exact ⟨hi, (Bool.and_eq_true_iff.1 hk).2⟩
  refine ⟨h.users.erase user, ⟨?_⟩, h.roles, ⟨?_, ?_, ?_⟩, ⟨?_, ?_, ?_, ?_, ?_⟩, ⟨?_, ?_, ?_, ?_⟩⟩
  · intro digest s hs
    exact h.tokens.key digest s (Table.get?_filter_eq_some.1 hs).1
  · intro id g hid
    exact h.groups.key id g (hg hid).1
  · intro id g hid
    exact h.groups.trimmed id g (hg hid).1
  · intro a b g g' ha hb
    exact h.groups.distinct a b g g' (hg ha).1 (hg hb).1
  · intro k m hk
    exact h.members.key k m (hm hk).1
  · intro k m hk
    have hkey := h.members.key k m (hm hk).1
    rw [show m.group = k.2 by rw [← hkey]; rfl]
    exact (hm hk).2.2
  · intro k m hk
    exact h.members.role k m (hm hk).1
  · -- The owner of a group that is left is not the user, nor is its membership deleted.
    intro id g hid
    obtain ⟨m, hk, ha, hf⟩ := h.members.owner id g (hg hid).1
    refine ⟨m, Table.get?_filter_eq_some.2 ⟨hk, ?_⟩, ha, hf⟩
    exact Bool.and_eq_true_iff.2 ⟨decide_eq_true (hg hid).2, Table.contains_eq_true.2 ⟨g, hid⟩⟩
  · intro k m hk ha
    obtain ⟨hk, -, hc⟩ := hm hk
    obtain ⟨g, hgr, ho⟩ := h.members.admin k m hk ha
    obtain ⟨g', hg'⟩ := Table.contains_eq_true.1 hc
    rw [← h.members.key k m hk] at hg'
    have he := (hg hg').1
    rw [show m.key.2 = m.group from rfl, hgr] at he
    cases he
    exact ⟨g, hg', ho⟩
  · intro id i hid
    exact h.invites.key id i (hi hid).1
  · intro id i hid
    exact (hi hid).2
  · intro id i hid
    exact h.invites.role id i (hi hid).1
  · intro id i hid
    exact h.invites.uses id i (hi hid).1

theorem storeRole (h : t.Consistent) (r : Role) {fresh : RoleId} (hf : t.roles.get? fresh = none) :
    (t.createRole r fresh).2.Consistent := by
  have hk (id : RoleId) (r' : Role) (hid : t.roles.get? id = some r') :=
    createRole_keeps (r := r) hf hid
  have hm := h.members.mono hk
  have hi := h.invites.mono hk
  refine ⟨?_, ?_, h.roles.createRole r fresh, ?_, ?_, ?_⟩
  · rw [createRole_users]
    exact h.users
  · rw [createRole_tokens]
    exact h.tokens
  · rw [createRole_groups]
    exact h.groups
  · rw [createRole_groups, createRole_memberships]
    exact hm
  · rw [createRole_groups, createRole_invites]
    exact hi

theorem found (h : t.Consistent) {g : Group} {r : RoleId} (hf : t.groups.get? g.id = none)
    (hr : t.roles.get? r = some .full) (ht : Text.trim g.name = g.name ∧ g.name ≠ "")
    (hn : ∀ g' ∈ t.groups.rows, g'.name ≠ g.name) :
    Consistent { t with
      groups := t.groups.insert g.id g
      memberships := t.memberships.insert (g.owner, g.id) (.owner g.owner g.id r) } := by
  have hnew : (t.groups.insert g.id g).get? g.id = some g := Table.get?_insert_self ..
  have hkeeps {id : GroupId} (hid : t.groups.contains id = true) :
      (t.groups.insert g.id g).contains id = true := by
    obtain ⟨g', hid⟩ := Table.contains_eq_true.1 hid
    exact Table.contains_eq_true.2 ⟨g', Table.get?_insert_of_new hf hid⟩
  refine ⟨h.users, h.tokens, h.roles, ⟨?_, ?_, ?_⟩, ⟨?_, ?_, ?_, ?_, ?_⟩, ⟨?_, ?_, ?_, ?_⟩⟩
  · intro id g' hid
    rcases Table.get?_insert_cases hid with ⟨rfl, rfl⟩ | hid
    · rfl
    · exact h.groups.key id g' hid
  · intro id g' hid
    rcases Table.get?_insert_cases hid with ⟨rfl, rfl⟩ | hid
    · exact ht
    · exact h.groups.trimmed id g' hid
  · intro a b g' g'' ha hb he
    rcases Table.get?_insert_cases ha with ⟨rfl, rfl⟩ | ha' <;>
      rcases Table.get?_insert_cases hb with ⟨rfl, rfl⟩ | hb'
    · rfl
    · exact absurd he.symm (hn g'' (Table.mem_rows.2 ⟨b, hb'⟩))
    · exact absurd he (hn g' (Table.mem_rows.2 ⟨a, ha'⟩))
    · exact h.groups.distinct a b g' g'' ha' hb' he
  · intro k m hk
    rcases Table.get?_insert_cases hk with ⟨rfl, rfl⟩ | hk
    · rfl
    · exact h.members.key k m hk
  · intro k m hk
    rcases Table.get?_insert_cases hk with ⟨rfl, rfl⟩ | hk
    · exact Table.contains_eq_true.2 ⟨g, hnew⟩
    · exact hkeeps (h.members.group k m hk)
  · intro k m hk
    rcases Table.get?_insert_cases hk with ⟨rfl, rfl⟩ | hk
    · exact Table.contains_eq_true.2 ⟨.full, hr⟩
    · exact h.members.role k m hk
  · -- The group is new, so the membership of no other owner is overwritten.
    intro id g' hid
    rcases Table.get?_insert_cases hid with ⟨rfl, rfl⟩ | hid
    · exact ⟨_, Table.get?_insert_self .., rfl, hr⟩
    · obtain ⟨m, hom, ha, hrole⟩ := h.members.owner id g' hid
      have hne : (g'.owner, id) ≠ (g.owner, g.id) := by
        intro he
        rw [(Prod.mk.inj he).2, hf] at hid
        cases hid
      exact ⟨m, by rw [Table.get?_insert, if_neg hne, hom], ha, hrole⟩
  · intro k m hk ha
    rcases Table.get?_insert_cases hk with ⟨rfl, rfl⟩ | hk
    · exact ⟨g, hnew, rfl⟩
    · obtain ⟨g', hg', ho⟩ := h.members.admin k m hk ha
      exact ⟨g', Table.get?_insert_of_new hf hg', ho⟩
  · exact h.invites.key
  · exact fun id i hi => hkeeps (h.invites.group id i hi)
  · exact h.invites.role
  · exact h.invites.uses

theorem invite (h : t.Consistent) {i : Invite} (hg : t.groups.contains i.group = true)
    (hr : t.roles.contains i.role = true) (hu : 0 ≤ i.remaining) :
    (t.createInvite i).Consistent := by
  refine ⟨h.users, h.tokens, h.roles, h.groups, h.members, ⟨?_, ?_, ?_, ?_⟩⟩
  · intro id j hid
    rcases Table.get?_insert_cases hid with ⟨rfl, rfl⟩ | hid
    · rfl
    · exact h.invites.key id j hid
  · intro id j hid
    rcases Table.get?_insert_cases hid with ⟨rfl, rfl⟩ | hid
    · exact hg
    · exact h.invites.group id j hid
  · intro id j hid
    rcases Table.get?_insert_cases hid with ⟨rfl, rfl⟩ | hid
    · exact hr
    · exact h.invites.role id j hid
  · intro id j hid
    rcases Table.get?_insert_cases hid with ⟨rfl, rfl⟩ | hid
    · exact hu
    · exact h.invites.uses id j hid

/-- A redemption takes a use that was there, and admits no administrator. -/
theorem enrol (h : t.Consistent) {id : InviteId} {i : Invite} {user : UserId}
    (hi : t.invites.get? id = some i) (hu : 0 < i.remaining)
    (hm : t.memberships.get? (user, i.group) = none) :
    (t.admitted id { user, group := i.group, role := i.role }).Consistent := by
  refine ⟨h.users, h.tokens, h.roles, h.groups, ⟨?_, ?_, ?_, ?_, ?_⟩, ⟨?_, ?_, ?_, ?_⟩⟩
  · intro k m hk
    rcases Table.get?_insert_cases hk with ⟨rfl, rfl⟩ | hk
    · rfl
    · exact h.members.key k m hk
  · intro k m hk
    rcases Table.get?_insert_cases hk with ⟨rfl, rfl⟩ | hk
    · exact h.invites.group id i hi
    · exact h.members.group k m hk
  · intro k m hk
    rcases Table.get?_insert_cases hk with ⟨rfl, rfl⟩ | hk
    · exact h.invites.role id i hi
    · exact h.members.role k m hk
  · intro gid g hg
    obtain ⟨m, hom, ha, hr⟩ := h.members.owner gid g hg
    exact ⟨m, Table.get?_insert_of_new hm hom, ha, hr⟩
  · intro k m hk ha
    rcases Table.get?_insert_cases hk with ⟨rfl, rfl⟩ | hk
    · cases ha
    · exact h.members.admin k m hk ha
  · intro id' j hid
    obtain ⟨j', hj', rfl⟩ := takeUse_invites hid
    exact h.invites.key id' j' hj'
  · intro id' j hid
    obtain ⟨j', hj', rfl⟩ := takeUse_invites hid
    exact h.invites.group id' j' hj'
  · intro id' j hid
    obtain ⟨j', hj', rfl⟩ := takeUse_invites hid
    exact h.invites.role id' j' hj'
  · intro id' j hid
    obtain ⟨j', hj', rfl⟩ := takeUse_invites hid
    by_cases he : id' = id
    · subst he
      cases hi.symm.trans hj'
      simpa using Int.sub_nonneg.2 hu
    · simpa [he] using h.invites.uses id' j' hj'

end Tables.Consistent

open Tables

/-- An operation keeps the tables consistent, however it ends. -/
theorem Outcome.consistent {now : Instant} {d : Draws} {t t' : Tables} {o : Operation}
    {r : Except Refusal o.Result} (ho : Outcome now d t o r t') (h : t.Consistent)
    (hf : t.Fresh d) : t'.Consistent := by
  cases ho with
  | refused | kept => exact h
  | registered hid he hv hu =>
    refine h.register ?_ hu
    rw [he, Email.normalize_normalize]
  | secretStored => exact h.storeSecret _
  | deleted => exact h.delete _
  | purged => exact h.purge now
  | roleStored | nameTaken => exact h.storeRole _ hf.role
  | @founded _ name _ g hid ho hn he hu =>
    have hs := (h.storeRole .full hf.role).found (g := g) (r := (t.createRole .full d.role).1)
    rw [createRole_groups, createRole_memberships] at hs
    refine hs (hid ▸ hf.group) (createRole_get ..) ⟨?_, ?_⟩ hu
    · rw [hn, Text.trim_trim]
    · intro hempty
      rw [← hn, hempty] at he
      exact absurd he (by decide)
  | invited hu hg =>
    refine (h.storeRole _ hf.role).invite ?_ ?_ (Int.le_of_lt hu)
    · rw [createRole_groups]
      exact Table.contains_eq_true.2 ⟨_, hg⟩
    · exact Table.contains_eq_true.2 ⟨_, createRole_get ..⟩
  | redeemed hi hu hm => exact h.enrol hi hu hm

namespace Tables

variable {t : Tables}

theorem Consistent.knowsFull (h : t.Consistent) : t.KnowsFull := by
  intro id g hg
  obtain ⟨m, -, -, hf⟩ := h.members.owner id g hg
  exact ⟨m.role, hf⟩

/-- Of a member the role is known. -/
theorem Consistent.roleOf_member (h : t.Consistent) {user : UserId} {group : GroupId}
    {m : Membership} (hm : t.memberships.get? (user, group) = some m) :
    ∃ stored, t.roles.get? m.role = some stored ∧
      t.roleOf user group = .ok (m.effectiveRole stored) := by
  obtain ⟨r, hr⟩ := Table.contains_eq_true.1 (h.members.role _ m hm)
  refine ⟨r, hr, ?_⟩
  simp only [roleOf, hm, hr]

theorem Consistent.roleOf_error (h : t.Consistent) {user : UserId} {group : GroupId} {e : Refusal}
    (he : t.roleOf user group = .error e) : e = .notAMember := by
  cases hm : t.memberships.get? (user, group) with
  | none =>
    simp only [roleOf, hm] at he
    cases he
    rfl
  | some m =>
    obtain ⟨stored, -, hr⟩ := h.roleOf_member hm
    rw [hr] at he
    cases he

end Tables

theorem Service.consistent_after {policy : Policy} {timeoutMillis : Nat} {clock : Instant}
    {steps : List Step} (h : DrawnOnce steps) :
    ((start policy timeoutMillis clock).after steps).tables.Consistent :=
  session_induction (I := fun _ t => t.Consistent) .empty (fun _ _ _ _ h => h)
    (fun _ _ _ _ _ hc hf ho => ho.consistent hc hf) steps h

/-- Throughout a session the tables are consistent, and a role is refused only to those who are
not members. -/
theorem session_consistent (policy : Policy) (timeoutMillis : Nat) (clock : Instant)
    (steps : List Step) (h : DrawnOnce steps) :
    ((Service.start policy timeoutMillis clock).after steps).tables.Consistent ∧
      ∀ user group d e,
        (((Service.start policy timeoutMillis clock).after steps).perform
          (.resolveRole user group) d).1 = .error e → e = .notAMember := by
  have hc : ((Service.start policy timeoutMillis clock).after steps).tables.Consistent :=
    Service.consistent_after h
  refine ⟨hc, fun user group d e he => ?_⟩
  rw [((Service.start_idle policy timeoutMillis clock).after steps).perform_resolveRole] at he
  exact hc.roleOf_error he

theorem session_consistent_sample :
    DrawnOnce Sample.steps ∧ (Sample.service.after Sample.steps).tables.Consistent ∧
      (Sample.service.after Sample.steps).tables.memberships.size = 2 :=
  ⟨Sample.drawnOnce,
    (session_consistent Sample.policy 5000 Sample.clock Sample.steps Sample.drawnOnce).1,
    by decide +kernel⟩

end GroupAccess
