import GroupAccess.Proofs.Interleaving.Reliance
import GroupAccess.Proofs.Operation.Effect
import GroupAccess.Proofs.Operation.Footprint
import GroupAccess.Proofs.Program.Redemption
import GroupAccess.Proofs.Program.Reliance
import GroupAccess.Proofs.Store.Answered
import GroupAccess.Proofs.Store.Rollback

namespace GroupAccess

namespace Tables

/-- The roles of all members and invites are stored, and no invite has uses below zero. -/
structure Valid (t : Tables) : Prop where
  members : ∀ k m, t.memberships.get? k = some m → t.roles.contains m.role = true
  invites : ∀ id i, t.invites.get? id = some i → t.roles.contains i.role = true
  uses : ∀ id i, t.invites.get? id = some i → 0 ≤ i.remaining

/-- The roles that were stored are stored still. -/
def Keeps (t t' : Tables) : Prop := ∀ id, t.roles.contains id = true → t'.roles.contains id = true

variable {t t' t'' : Tables}

theorem Keeps.refl (t : Tables) : t.Keeps t := fun _ h => h

theorem Keeps.trans (h : t.Keeps t') (h' : t'.Keeps t'') : t.Keeps t'' :=
  fun id hid => h' id (h id hid)

theorem Keeps.of_eq (h : t'.roles = t.roles) : t.Keeps t' := by
  intro id hid
  rw [h]
  exact hid

/-- A role that is stored takes no other away, not even under an identifier in use. -/
theorem keeps_createRole (t : Tables) (r : Role) (fresh : RoleId) :
    t.Keeps (t.createRole r fresh).2 := by
  intro id hid
  unfold createRole
  split
  · exact hid
  · rw [Table.contains, Table.get?_insert]
    split
    · rfl
    · exact hid

namespace Valid

theorem empty : Valid {} := ⟨nofun, nofun, nofun⟩

/-- Nothing is relied on by rows that are taken away. -/
theorem of_subset (h : t.Valid) (hr : t.Keeps t')
    (hm : ∀ k m, t'.memberships.get? k = some m → t.memberships.get? k = some m)
    (hi : ∀ id i, t'.invites.get? id = some i → t.invites.get? id = some i) : t'.Valid := by
  constructor
  · intro k m hk
    exact hr _ (h.members k m (hm k m hk))
  · intro id i hid
    exact hr _ (h.invites id i (hi id i hid))
  · intro id i hid
    exact h.uses id i (hi id i hid)

theorem congr (h : t.Valid) (hr : t.Keeps t') (hm : t'.memberships = t.memberships)
    (hi : t'.invites = t.invites) : t'.Valid := by
  apply h.of_subset hr
  · rw [hm]
    exact fun k m hk => hk
  · rw [hi]
    exact fun id i hid => hid

theorem createRole (h : t.Valid) (r : Role) (fresh : RoleId) : (t.createRole r fresh).2.Valid :=
  h.congr (t.keeps_createRole r fresh) (createRole_memberships ..) (createRole_invites ..)

theorem deleteUser (h : t.Valid) (user : UserId) : (t.deleteUser user).Valid := by
  have hr : t.Keeps (t.deleteUser user) := .of_eq rfl
  apply h.of_subset hr
  · exact fun k m hk => (Table.get?_filter_eq_some.1 hk).1
  · exact fun id i hid => (Table.get?_filter_eq_some.1 hid).1

theorem insertMember (h : t.Valid) {m : Membership} (hm : t.roles.contains m.role = true)
    (k : UserId × GroupId) :
    Valid { t with memberships := t.memberships.insert k m } := by
  refine ⟨fun k' m' hk => ?_, h.invites, h.uses⟩
  rcases Table.get?_insert_cases hk with ⟨-, rfl⟩ | hk
  · exact hm
  · exact h.members k' m' hk

theorem createInvite (h : t.Valid) {i : Invite} (hr : t.roles.contains i.role = true)
    (hu : 0 ≤ i.remaining) : (t.createInvite i).Valid := by
  constructor
  · exact h.members
  · intro id j hj
    rcases Table.get?_insert_cases hj with ⟨-, rfl⟩ | hj
    · exact hr
    · exact h.invites id j hj
  · intro id j hj
    rcases Table.get?_insert_cases hj with ⟨-, rfl⟩ | hj
    · exact hu
    · exact h.uses id j hj

/-- A write of a transaction that is accepted has found what it relies on. -/
theorem written (h : t.Valid) {w : Write} {r : w.call.Result} (hw : w.answer t = .ok r)
    (hr : ∀ m, w = .insertMembership m → t.roles.contains m.role = true) :
    (w.effect t).Valid := by
  cases w with
  | insertMembership m => exact h.insertMember (hr m rfl) m.key
  | decrement invite =>
    refine ⟨h.members, fun id i hi => ?_, fun id i hi => ?_⟩
    · obtain ⟨j, hj, rfl⟩ := takeUse_invites hi
      exact h.invites id j hj
    · obtain ⟨j, hj, rfl⟩ := takeUse_invites hi
      have hnow := h.uses id j hj
      by_cases he : id = invite
      · subst he
        obtain ⟨j', hj', hpos, -⟩ := Write.answer_decrement hw
        cases hj.symm.trans hj'
        simp only [if_true]
        omega
      · simp only [he, if_false]
        exact hnow

theorem undo (h : t.Valid) (u : Undo) : (u.apply t).Valid := by
  cases u with
  | membership key =>
    exact h.of_subset (.of_eq rfl) (fun k m hk => (Table.get?_filter_eq_some.1 hk).1)
      fun id i hid => hid
  | decrement invite =>
    have hback (id : InviteId) (i : Invite) (hi : (t.increment invite).invites.get? id = some i) :
        ∃ j, t.invites.get? id = some j ∧ i.role = j.role ∧ j.remaining ≤ i.remaining := by
      rw [increment, Table.get?_modify] at hi
      split at hi
      · obtain ⟨j, hj, rfl⟩ := Option.map_eq_some_iff.1 hi
        exact ⟨j, hj, rfl, by simp only; omega⟩
      · exact ⟨i, hi, rfl, Int.le_refl _⟩
    refine ⟨h.members, fun id i hi => ?_, fun id i hi => ?_⟩
    · obtain ⟨j, hj, hrole, -⟩ := hback id i hi
      rw [hrole]
      exact h.invites id j hj
    · obtain ⟨j, hj, -, hle⟩ := hback id i hi
      exact Int.le_trans (h.uses id j hj) hle

theorem rollback (h : t.Valid) (x : Transaction) : (x.rollback t).Valid :=
  x.rollback_induction h fun u _ h => h.undo u

end Valid

theorem keeps_rollback (x : Transaction) (t : Tables) : t.Keeps (x.rollback t) :=
  .of_eq (x.rollback_roles t)

end Tables

namespace Call

/-- What a call relies on: the roles that it writes are stored, and an invite has uses. -/
def Valid (t : Tables) : Call → Prop
  | .createGroup _ owner => t.roles.contains owner.role = true
  | .createInvite i => t.roles.contains i.role = true ∧ 0 < i.remaining
  | .insertMembership m => t.roles.contains m.role = true
  | _ => True

/-- What an answer tells: the roles that are given in it are stored. -/
def Tells (t : Tables) : (c : Call) → Except StoreFailure c.Result → Prop
  | .createRole _ _, .ok id => t.roles.contains id = true
  | .decrement _, .ok grant => t.roles.contains grant.role = true
  | _, _ => True

theorem Tells.mono {c : Call} {t t' : Tables} {r : Except StoreFailure c.Result} (h : c.Tells t r)
    (ht : t.Keeps t') : c.Tells t' r := by
  cases r with
  | error e => cases c <;> trivial
  | ok a =>
    cases c with
    | createRole role fresh => exact ht _ h
    | decrement invite => exact ht _ h
    | _ => trivial

theorem valid_of_other {c : Call}
    (hm : c.method ∉ [.createGroup, .createInvite, .insertMembership]) (t : Tables) :
    c.Valid t := by
  cases c <;> first | exact True.intro | exact absurd (by simp [Call.method]) hm

end Call

/-- A write of a transaction takes no role away. -/
theorem Store.call_write_valid {s s' : Store} {a : Agent} {w : Write}
    {r : Except StoreFailure w.call.Result} (h : s.tables.Valid)
    (hr : ∀ m, w = .insertMembership m → s.tables.roles.contains m.role = true)
    (hc : s.call a w.call = some (r, s')) :
    s'.tables.Valid ∧ s.tables.Keeps s'.tables := by
  rw [(call_write_eq_some hc).2]
  cases hans : w.answer s.tables with
  | error e =>
    simp only [Write.answered, Answer.effect, hans]
    exact ⟨h, .refl _⟩
  | ok _ =>
    have hroles : (w.effect s.tables).roles = s.tables.roles := by cases w <;> rfl
    simp only [Write.answered, Answer.effect, hans]
    exact ⟨h.written hans hr, .of_eq hroles⟩

/-- A call that finds what it relies on leaves it so that all others do. -/
theorem Store.call_valid {s s' : Store} {a : Agent} {c : Call} {r : Except StoreFailure c.Result}
    (h : s.tables.Valid) (hv : c.Valid s.tables) (hc : s.call a c = some (r, s')) :
    s'.tables.Valid ∧ s.tables.Keeps s'.tables ∧ c.Tells s'.tables r := by
  cases c with
  | health =>
    cases hc
    exact ⟨h, .refl _, trivial⟩
  | begin =>
    rw [call] at hc
    split at hc
    · cases hc
    · cases hc
      exact ⟨h, .refl _, trivial⟩
  | createUser u =>
    obtain rfl | ⟨-, rfl⟩ := call_createUser hc
    · exact ⟨h, .refl _, trivial⟩
    · exact ⟨h.congr (.of_eq rfl) rfl rfl, .of_eq rfl, trivial⟩
  | createToken record =>
    obtain rfl | ⟨-, rfl⟩ := call_createToken hc
    · exact ⟨h, .refl _, trivial⟩
    · exact ⟨h.congr (.of_eq rfl) rfl rfl, .of_eq rfl, trivial⟩
  | createGroup g owner =>
    obtain rfl | ⟨-, rfl⟩ := call_createGroup hc
    · exact ⟨h, .refl _, trivial⟩
    · have hm := h.insertMember hv owner.key
      exact ⟨hm.congr (.of_eq rfl) rfl rfl, .of_eq rfl, trivial⟩
  | createInvite i =>
    obtain ⟨-, rfl, rfl⟩ := call_createInvite hc
    exact ⟨h.createInvite hv.1 (Int.le_of_lt hv.2), .of_eq rfl, trivial⟩
  | createRole role fresh =>
    obtain ⟨t, held, tokens, fails⟩ := s
    cases held with
    | some y => cases hc
    | none =>
      cases hc
      refine ⟨h.createRole role fresh, t.keeps_createRole role fresh, ?_⟩
      exact Table.contains_eq_true.2 ⟨role, Tables.createRole_get ..⟩
  | deleteUser user =>
    rw [call] at hc
    obtain ⟨-, rfl⟩ := atomic_eq_some hc
    dsimp only
    split
    · exact ⟨h.deleteUser user, .of_eq rfl, trivial⟩
    · exact ⟨h, .refl _, trivial⟩
  | decrement invite =>
    have hother : ∀ m, Write.decrement invite = .insertMembership m →
        s.tables.roles.contains m.role = true := fun m hm => by cases hm
    obtain ⟨hvalid, hkeeps⟩ := call_write_valid (w := .decrement invite) h hother hc
    refine ⟨hvalid, hkeeps, ?_⟩
    obtain ⟨rfl, -⟩ := call_write_eq_some (w := .decrement invite) hc
    cases hans : (Write.decrement invite).answer s.tables with
    | error e => trivial
    | ok grant =>
      obtain ⟨i, hi, -, rfl⟩ := Write.answer_decrement hans
      exact hkeeps _ (h.invites invite i hi)
  | insertMembership m =>
    have hrole : ∀ m', Write.insertMembership m = .insertMembership m' →
        s.tables.roles.contains m'.role = true := by
      rintro _ ⟨⟩
      exact hv
    obtain ⟨hvalid, hkeeps⟩ := call_write_valid (w := .insertMembership m) h hrole hc
    exact ⟨hvalid, hkeeps, trivial⟩
  | commit =>
    rw [call] at hc
    obtain ⟨x, hx, rfl⟩ := within_eq_some hc
    dsimp only [Transaction.commit]
    split
    · exact ⟨h.rollback x, Tables.keeps_rollback x _, trivial⟩
    · exact ⟨h, .refl _, trivial⟩
  | rollback =>
    rw [call] at hc
    obtain ⟨x, hx, rfl⟩ := within_eq_some hc
    exact ⟨h.rollback x, Tables.keeps_rollback x _, trivial⟩
  | purgeTokens now =>
    rw [call] at hc
    obtain ⟨-, rfl⟩ := atomic_eq_some hc
    exact ⟨h.congr (.of_eq rfl) rfl rfl, .of_eq rfl, trivial⟩
  | _ =>
    rw [call] at hc
    obtain ⟨-, rfl⟩ := atomic_eq_some hc
    exact ⟨h, .refl _, trivial⟩

/-- What is written of roles is what the store has told, and roles stay stored. -/
def Reliance.onRoles : Reliance where
  Keeps := Tables.Keeps
  Needs := Call.Valid
  Shows := Call.Tells
  refl := .refl
  trans := .trans
  shows_mono ht hr := hr.mono ht
  rollback _ := trivial

open Program

theorem Invites.create_relies (actor : UserId) (group : GroupId) (role : Role) (uses : Int)
    (id : InviteId) (fresh : RoleId) (t : Tables) :
    (create actor group role uses id fresh).Relies (Call.Valid t) (Call.Tells t) := by
  rw [create_eq]
  split
  · exact .done _
  rename_i hu
  refine .ask_bind trivial fun found _ => ?_
  split
  · exact .done _
  have hlooks : Calls (Call.Valid t) (Groups.resolveRole actor group) :=
    resolveRole_calls trivial fun _ => trivial
  refine .bind (.of_calls (hlooks.catching fun e => .done _)) fun own => ?_
  split
  · split
    · -- The invite refers to the role by the identifier that the store has given for it.
      refine .ask_bind trivial fun roleId hstored => ?_
      exact .ask_bind ⟨hstored, Int.not_le.1 hu⟩ fun _ _ => .done _
    · exact .done _
  · exact .done _

theorem Groups.create_relies (now : Instant) (owner : UserId) (name : String)
    (description : Option String) (id : GroupId) (fresh : RoleId) (t : Tables) :
    (create now owner name description id fresh).Relies (Call.Valid t) (Call.Tells t) := by
  rw [create_eq]
  split
  · exact .done _
  refine .ask_bind trivial fun roleId hstored => ?_
  exact .ask_bind hstored fun _ _ => .done _

theorem Invites.redeem_relies (invite : InviteId) (user : UserId) (t : Tables) :
    (redeem invite user).Relies (Call.Valid t) (Call.Tells t) := by
  rw [redeem_eq]
  have hended (r : Except Refusal Membership) :
      (ended r).Relies (Call.Valid t) (Call.Tells t) := by
    cases r with
    | ok m => exact .count _ (.done _)
    | error e => exact .count _ (.done _)
  have hrefused (e : Refusal) : (refused e).Relies (Call.Valid t) (Call.Tells t) :=
    .call trivial fun _ _ => hended _
  refine .call trivial fun r _ => ?_
  cases r with
  | error e => exact hended (.error (.ofStore e))
  | ok _ =>
    refine .call trivial fun r hgrant => ?_
    cases r with
    | error e => exact hrefused _
    | ok grant =>
      -- The new member gets the role of the grant, which the store has given.
      refine .call hgrant fun r _ => ?_
      cases r with
      | error e => exact hrefused _
      | ok _ =>
        refine .call trivial fun r _ => ?_
        cases r with
        | error e => exact hended _
        | ok _ => exact hended _

/-- Whatever happens between its calls, an operation writes only what it may. -/
theorem program_valid (policy : Policy) (now : Instant) (d : Draws) (o : Operation) (t : Tables) :
    Reliance.onRoles.Holds t (o.program policy now d) := by
  intro u _
  have hplain {o : Operation}
      (hm : ∀ m ∈ o.methods, m ∉ [.createGroup, .createInvite, .insertMembership]) :
      (o.program policy now d).Relies (Call.Valid u) (Call.Tells u) :=
    .of_calls ((program_calls policy now d o).mono fun c hc => Call.valid_of_other (hm _ hc) u)
  cases o with
  | createGroup owner name description =>
    exact Groups.create_relies now owner name description d.group d.role u
  | createInvite actor group role uses => exact Invites.create_relies ..
  | redeem invite user => exact Invites.redeem_relies ..
  | _ => exact hplain (by simp [Operation.methods])

/-- As its role is stored, a member is never refused. -/
theorem Tables.Valid.roleOf_member {t : Tables} (h : t.Valid) {user : UserId} {group : GroupId}
    (hm : t.memberships.contains (user, group) = true) : ∃ own, t.roleOf user group = .ok own := by
  obtain ⟨m, hm⟩ := Table.contains_eq_true.1 hm
  obtain ⟨r, hr⟩ := Table.contains_eq_true.1 (h.members _ m hm)
  exact ⟨m.effectiveRole r, by simp only [Tables.roleOf, hm, hr]⟩

/-- In every state that operations lead to, the roles of all members and invites are stored and no
invite has uses below zero. -/
theorem Service.Reached.valid {policy : Policy} {timeoutMillis : Nat} {clock : Instant}
    {s : Service} (h : s.Reached policy timeoutMillis clock) : s.tables.Valid :=
  h.preserved (R := .onRoles) ⟨program_valid, Store.call_valid⟩ .empty

end GroupAccess
