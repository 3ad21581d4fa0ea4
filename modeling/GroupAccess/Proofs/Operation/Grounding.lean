import GroupAccess.Proofs.Operation.Footprint
import GroupAccess.Proofs.Store.Answered

namespace GroupAccess

/-- Every invite and every membership leads to a group that exists. -/
structure Tables.Grounded (t : Tables) : Prop where
  invites : ∀ id i, t.invites.get? id = some i → t.groups.contains i.group = true
  members : ∀ k m, t.memberships.get? k = some m → m.key = k ∧ t.groups.contains m.group = true

namespace Tables.Grounded

variable {t t' : Tables}

theorem empty : Grounded {} := ⟨nofun, nofun⟩

theorem congr (h : t.Grounded) (hg : t'.groups = t.groups) (hm : t'.memberships = t.memberships)
    (hi : t'.invites = t.invites) : t'.Grounded := by
  constructor
  · rw [hg, hi]
    exact h.invites
  · rw [hg, hm]
    exact h.members

/-- With a group goes all that leads to it. -/
theorem deleteUser (h : t.Grounded) (user : UserId) : (t.deleteUser user).Grounded := by
  constructor
  · intro id i hi
    exact (Bool.and_eq_true_iff.1 (Table.get?_filter_eq_some.1 hi).2).2
  · intro k m hm
    obtain ⟨hm, hk⟩ := Table.get?_filter_eq_some.1 hm
    have hkey := (h.members k m hm).1
    refine ⟨hkey, ?_⟩
    rw [show m.group = k.2 by rw [← hkey]; rfl]
    exact (Bool.and_eq_true_iff.1 hk).2

theorem found (h : t.Grounded) {g : Group} {owner : Membership} (ho : owner.group = g.id) :
    Grounded { t with
      groups := t.groups.insert g.id g
      memberships := t.memberships.insert owner.key owner } := by
  have hkeeps {id : GroupId} (hid : t.groups.contains id = true) :
      (t.groups.insert g.id g).contains id = true := by
    rw [Table.contains, Table.get?_insert]
    split
    · rfl
    · exact hid
  constructor
  · exact fun id i hi => hkeeps (h.invites id i hi)
  · intro k m hm
    rcases Table.get?_insert_cases hm with ⟨rfl, rfl⟩ | hm
    · refine ⟨rfl, ?_⟩
      rw [ho]
      exact Table.contains_eq_true.2 ⟨g, Table.get?_insert_self ..⟩
    · exact ⟨(h.members k m hm).1, hkeeps (h.members k m hm).2⟩

theorem invite (h : t.Grounded) {i : Invite} (hg : t.groups.contains i.group = true) :
    (t.createInvite i).Grounded := by
  refine ⟨fun id j hj => ?_, h.members⟩
  rcases Table.get?_insert_cases hj with ⟨-, rfl⟩ | hj
  · exact hg
  · exact h.invites id j hj

theorem takeUse (h : t.Grounded) (invite : InviteId) : (t.takeUse invite).Grounded := by
  refine ⟨fun id i hi => ?_, h.members⟩
  obtain ⟨j, hj, rfl⟩ := takeUse_invites hi
  exact h.invites id j hj

theorem enrol (h : t.Grounded) {m : Membership} (hg : t.groups.contains m.group = true) :
    Grounded { t with memberships := t.memberships.insert m.key m } := by
  refine ⟨h.invites, fun k m' hm => ?_⟩
  rcases Table.get?_insert_cases hm with ⟨rfl, rfl⟩ | hm
  · exact ⟨rfl, hg⟩
  · exact h.members k m' hm

theorem undo (h : t.Grounded) (u : Undo) : (u.apply t).Grounded := by
  cases u with
  | membership key =>
    exact ⟨h.invites, fun k m hm => h.members k m (Table.get?_filter_eq_some.1 hm).1⟩
  | decrement invite =>
    refine ⟨fun id i hi => ?_, h.members⟩
    rw [Undo.apply, increment, Table.get?_modify] at hi
    split at hi
    · obtain ⟨j, hj, rfl⟩ := Option.map_eq_some_iff.1 hi
      exact h.invites _ j hj
    · exact h.invites id i hi

theorem rollback (h : t.Grounded) (x : Transaction) : (x.rollback t).Grounded :=
  x.rollback_induction h fun u _ h => h.undo u

end Tables.Grounded

/-- What a call outside of transactions does to the groups and to what leads to them. -/
inductive Tables.Moved (t : Tables) : Call → Tables → Prop
  | kept {c : Call} {t' : Tables} (hg : t'.groups = t.groups)
      (hm : t'.memberships = t.memberships) (hi : t'.invites = t.invites) : Moved t c t'
  | founded (g : Group) (owner : Membership) : Moved t (.createGroup g owner) { t with
      groups := t.groups.insert g.id g
      memberships := t.memberships.insert owner.key owner }
  | deleted (user : UserId) : Moved t (.deleteUser user) (t.deleteUser user)
  | invited (i : Invite) : Moved t (.createInvite i) (t.createInvite i)

theorem Tables.Moved.same {t : Tables} {c : Call} : Moved t c t := kept rfl rfl rfl

theorem Store.call_moved {s s' : Store} {a : Agent} {c : Call} {r : Except StoreFailure c.Result}
    (ht : c.method.transacts = false) (hc : s.call a c = some (r, s')) :
    s.tables.Moved c s'.tables := by
  cases c with
  | begin | decrement _ | insertMembership _ | commit | rollback => cases ht
  | health =>
    cases hc
    exact .same
  | createUser u =>
    obtain rfl | ⟨-, rfl⟩ := call_createUser hc
    · exact .same
    · exact .kept rfl rfl rfl
  | createToken record =>
    obtain rfl | ⟨-, rfl⟩ := call_createToken hc
    · exact .same
    · exact .kept rfl rfl rfl
  | createGroup g owner =>
    obtain rfl | ⟨-, rfl⟩ := call_createGroup hc
    · exact .same
    · exact .founded g owner
  | createInvite i =>
    rw [call] at hc
    obtain ⟨-, rfl⟩ := atomic_eq_some hc
    exact .invited i
  | createRole role fresh =>
    rw [call] at hc
    obtain ⟨-, rfl⟩ := atomic_eq_some hc
    exact .kept (Tables.createRole_groups ..) (Tables.createRole_memberships ..)
      (Tables.createRole_invites ..)
  | deleteUser user =>
    rw [call] at hc
    obtain ⟨-, rfl⟩ := atomic_eq_some hc
    dsimp only
    split
    · exact .deleted user
    · exact .same
  | _ =>
    rw [call] at hc
    obtain ⟨-, rfl⟩ := atomic_eq_some hc
    exact .kept rfl rfl rfl

/-- The calls of an operation that is no redemption: it makes invites to the group, deletes the user
and founds groups with the members that it is about. -/
def Call.Fits (o : Operation) : Call → Prop
  | .createGroup g owner => owner.group = g.id
  | .deleteUser user => o = .deleteUser user
  | .createInvite i => ∃ actor role uses, o = .createInvite actor i.group role uses
  | c => c.method.transacts = false

namespace Call.Fits

variable {o : Operation} {c : Call}

theorem not_transacts (h : c.Fits o) : c.method.transacts = false := by
  cases c <;> first | rfl | exact h

theorem of_other (ht : c.method.transacts = false)
    (hm : c.method ∉ [.createGroup, .deleteUser, .createInvite]) : c.Fits o := by
  cases c <;> first | exact ht | exact absurd (by simp [Call.method]) hm

end Call.Fits

open Program

theorem Invites.create_fits (actor : UserId) (group : GroupId) (role : Role) (uses : Int)
    (id : InviteId) (fresh : RoleId) : Calls (Call.Fits (.createInvite actor group role uses))
      (create actor group role uses id fresh) :=
  createInvite_calls rfl rfl (fun _ => rfl) rfl fun _ => ⟨actor, role, uses, rfl⟩

theorem program_fits (policy : Policy) (now : Instant) (d : Draws) {o : Operation}
    (ho : ∀ id user, o ≠ .redeem id user) : Calls (Call.Fits o) (o.program policy now d) := by
  cases o with
  | redeem id user => exact absurd rfl (ho id user)
  | createGroup owner name description =>
    rw [Operation.program, Groups.create_eq]
    refine Calls.ite (Calls.done _) (Calls.bind (Calls.ask _ rfl) fun role => ?_)
    exact Calls.bind (Calls.ask _ rfl) fun _ => Calls.done _
  | createInvite actor group role uses =>
    exact Invites.create_fits ..
  | deleteUser user => exact Calls.ask _ rfl
  | _ =>
    refine (program_calls policy now d _).mono fun c hc => ?_
    refine .of_other ?_ ?_
    all_goals
      revert hc
      generalize c.method = m
      simp only [Operation.methods]
      revert m
      decide

/-- What a step of an operation by a method does to the groups and to what leads to them. -/
structure Operation.Leads (o : Operation) (m : Method) (t t' : Tables) : Prop where
  /-- A group is there still, unless its owner is deleted. -/
  groups : ∀ id g, t.groups.get? id = some g →
    t'.groups.contains id = true ∨ o = .deleteUser g.owner
  /-- No row loses its group, unless an invite is stored when its group is gone. -/
  grounded : t.Grounded → (∀ actor group role uses, o = .createInvite actor group role uses →
    m = .createInvite → t.groups.contains group = true) → t'.Grounded

theorem Tables.Moved.leads {t t' : Tables} {c : Call} {o : Operation} (h : t.Moved c t')
    (hf : c.Fits o) : o.Leads c.method t t' := by
  cases h with
  | kept hg hm hi =>
    refine ⟨fun id g hid => .inl ?_, fun h _ => h.congr hg hm hi⟩
    rw [hg]
    exact Table.contains_eq_true.2 ⟨g, hid⟩
  | founded g owner =>
    refine ⟨fun id g' hid => .inl ?_, fun h _ => h.found hf⟩
    rw [Table.contains, Table.get?_insert]
    split
    · rfl
    · exact Table.contains_eq_true.2 ⟨g', hid⟩
  | deleted user =>
    refine ⟨fun id g hid => ?_, fun h _ => h.deleteUser user⟩
    by_cases ho : g.owner = user
    · exact .inr (ho ▸ hf)
    · refine .inl (Table.contains_eq_true.2 ⟨g, Table.get?_filter_eq_some.2 ⟨hid, ?_⟩⟩)
      exact decide_eq_true ho
  | invited i =>
    obtain ⟨actor, role, uses, rfl⟩ := hf
    refine ⟨fun id g hid => .inl (Table.contains_eq_true.2 ⟨g, hid⟩), fun h hg => ?_⟩
    exact h.invite (hg actor i.group role uses rfl rfl)

end GroupAccess
