import GroupAccess.Proofs.Interleaving.Contest
import GroupAccess.Proofs.Interleaving.Validity
import GroupAccess.Proofs.Session.Consistency
import GroupAccess.Proofs.Store.Interning
import GroupAccess.Proofs.Store.Unique

namespace GroupAccess

open Program

/-- A registration takes the password. -/
structure PasswordPolicy.Accepts (policy : PasswordPolicy) (password : Password) : Prop where
  strong : ∃ bits, password.checkStrength policy.minEntropy = .ok bits
  fits : password.text.utf8ByteSize ≤ policy.maxBytes

namespace Accounts

/-- A registration that found its address free. -/
def storing (u : User) : Program User :=
  (ask (.createUser u) emailRefusal).bind fun _ => .done (.ok u)

/-- A registration of which only the store may refuse the address. -/
def seeking (u : User) : Program User :=
  (ask (.findUserByEmail u.email)).bind fun found =>
    if found.isSome = true then .done (.error .emailAlreadyInUse) else storing u

theorem register_accepted {policy : PasswordPolicy} {email : String} {password : Password}
    (hv : Email.isValid (Email.normalize email) = true) (hp : policy.Accepts password)
    (now : Instant) (id : UserId) (salt : Password.Salt) :
    ∃ u, u.email = Email.normalize email ∧
      register policy now email password id salt = seeking u := by
  obtain ⟨⟨bits, hstrong⟩, hfits⟩ := hp
  have hhash : ∃ hash, password.hash policy.serverSecret policy.maxBytes salt = .ok hash :=
    ⟨_, if_neg (Nat.not_lt.2 hfits)⟩
  obtain ⟨hash, hhash⟩ := hhash
  refine ⟨⟨id, Email.normalize email, hash, now⟩, rfl, ?_⟩
  rw [register_eq, if_pos hv, hstrong, hhash]
  rfl

end Accounts

/-- What is left of a registration of an address, and the number of calls it still makes. -/
inductive Registering (email : String) (t : Tables) :
    Nat → (o : Operation) → Program o.Result → Prop
  | seeking {raw : String} {password : Password} {u : User} (hu : u.email = email) :
      Registering email t 2 (.register raw password) (Accounts.seeking u)
  | storing {raw : String} {password : Password} {u : User} (hu : u.email = email) :
      Registering email t 1 (.register raw password) (Accounts.storing u)
  | registered {raw : String} {password : Password} {u : User} (hu : t.addressed email = [u]) :
      Registering email t 0 (.register raw password) (.done (.ok u))
  | refused {raw : String} {password : Password} (ht : t.addressed email ≠ []) :
      Registering email t 0 (.register raw password) (.done (.error .emailAlreadyInUse))

/-- The contest for an address. -/
def Prize.address (email : String) : Prize where
  Stage := Registering email
  Free t := t.addressed email = []
  Taken t := ∃ u, t.addressed email = [u]
  refusal := .emailAlreadyInUse

namespace Registering

variable {email : String} {t t' : Tables} {n : Nat} {o : Operation} {p : Program o.Result}

/-- Whatever is stored while the address is free, nobody was at its end. -/
theorem of_free (hp : Registering email t n o p) (hfree : t.addressed email = []) :
    Registering email t' n o p := by
  cases hp with
  | seeking hu => exact .seeking hu
  | storing hu => exact .storing hu
  | registered hu => cases hfree.symm.trans hu
  | refused hne => exact absurd hfree hne

theorem turn {s : Store} {a : Agent} (hp : Registering email s.tables (n + 1) o p)
    (hh : s.held = none)
    (ht : (Prize.address email).Free s.tables ∨ (Prize.address email).Taken s.tables) :
    ∃ c next r t, p.settled = .call c next ∧ s.call a c = some (r, { s with tables := t }) ∧
      (Prize.address email).Turn s.tables t n o (next r).settled := by
  generalize hm : n + 1 = m at hp
  cases hp with
  | @seeking raw password u hu =>
    cases hm
    subst hu
    refine ⟨_, _, _, s.tables, rfl, Store.read_free hh _, ?_⟩
    cases hf : s.tables.findUserByEmail u.email with
    | some v =>
      have hne : s.tables.addressed u.email ≠ [] := by
        rw [Tables.findUserByEmail_eq] at hf
        intro hnil
        rw [hnil] at hf
        cases hf
      exact .same (Nat.zero_le 1) (.refused hne) rfl
    | none => exact .same (Nat.le_refl 1) (.storing rfl) rfl
  | @storing raw password u hu =>
    cases hm
    subst hu
    rcases ht with hfree | ⟨v, hv⟩
    · obtain ⟨t, hcreate, hone⟩ := Tables.createUser_addressed hfree
      refine ⟨_, _, _, t, rfl, Store.write_ok hh hcreate, ?_⟩
      exact ⟨⟨0, Nat.le_refl 0, .registered hone⟩, fun _ _ _ h => h.of_free hfree,
        .inr ⟨rfl, hfree, u, hone⟩⟩
    · have hne : s.tables.addressed u.email ≠ [] := by
        rw [hv]
        exact List.cons_ne_nil v []
      refine ⟨_, _, _, s.tables, rfl, Store.write_error hh (Tables.createUser_conflict hne), ?_⟩
      exact .same (Nat.le_refl 0) (.refused hne) rfl
  | registered => cases hm
  | refused => cases hm

end Registering

theorem Prize.address_fair (email : String) : (Prize.address email).Fair := by
  refine ⟨fun hp hh ht => hp.turn hh ht, fun hp => ?_, fun hfree htaken => ?_⟩
  · cases hp with
    | @registered raw password u hu => exact .inl ⟨u, rfl⟩
    | refused ht => exact .inr ⟨rfl, ht⟩
  · obtain ⟨u, hu⟩ := htaken
    cases hfree.symm.trans hu

namespace Groups

/-- A foundation that was told the full role. -/
def storing (g : Group) (role : RoleId) : Program Group :=
  (ask (.createGroup g (.owner g.owner g.id role)) nameRefusal).bind fun _ => .done (.ok g)

/-- A foundation of which only the store may refuse the name. -/
def interning (g : Group) (fresh : RoleId) : Program Group :=
  (ask (.createRole .full fresh)).bind (storing g)

theorem create_accepted {name : String} (hn : Text.trim name ≠ "") (now : Instant) (owner : UserId)
    (description : Option String) (id : GroupId) (fresh : RoleId) :
    ∃ g, g.name = Text.trim name ∧ g.id = id ∧ g.owner = owner ∧
      create now owner name description id fresh = interning g fresh := by
  have hempty : ¬(Text.trim name).isEmpty = true := fun he => hn (String.isEmpty_iff.1 he)
  refine ⟨⟨id, Text.trim name, description.getD "", owner, now⟩, rfl, rfl, rfl, ?_⟩
  rw [create_eq, if_neg hempty]
  rfl

end Groups

/-- A group is the one with its name. Its owner is its one member, and has the full role, which is
stored once. -/
structure Tables.Founded (t : Tables) (g : Group) (role : RoleId) : Prop where
  named : t.named g.name = [g]
  members : t.membersOf g.id = [.owner g.owner g.id role]
  role : t.roles.get? role = some .full
  roles : RolesSound t.roles

/-- What is left of a foundation of a group of a name, and the number of calls it still makes. The
identifier of the group is new among the memberships `M`. -/
inductive Founding (name : String) (M : List Membership) (t : Tables) :
    Nat → (o : Operation) → Program o.Result → Prop
  | interning {raw : String} {description : Option String} {g : Group} {fresh : RoleId}
      (hn : g.name = name) (hm : ∀ m ∈ M, m.group ≠ g.id) :
      Founding name M t 2 (.createGroup g.owner raw description) (Groups.interning g fresh)
  | storing {raw : String} {description : Option String} {g : Group} {role : RoleId}
      (hn : g.name = name) (hm : ∀ m ∈ M, m.group ≠ g.id) (hr : t.roles.get? role = some .full) :
      Founding name M t 1 (.createGroup g.owner raw description) (Groups.storing g role)
  | founded {raw : String} {description : Option String} {g : Group} {role : RoleId}
      (hn : g.name = name) (hg : t.Founded g role) :
      Founding name M t 0 (.createGroup g.owner raw description) (.done (.ok g))
  | refused {owner : UserId} {raw : String} {description : Option String}
      (ht : t.named name ≠ []) :
      Founding name M t 0 (.createGroup owner raw description) (.done (.error .groupNameTaken))

/-- The contest for the name of a group, where the memberships are `M` before. -/
def Prize.name (name : String) (M : List Membership) : Prize where
  Stage := Founding name M
  Free t := t.named name = [] ∧ t.memberships.rows = M ∧ RolesSound t.roles
  Taken t := ∃ g role, g.name = name ∧ t.Founded g role
  refusal := .groupNameTaken

namespace Founding

variable {name : String} {M : List Membership} {t : Tables} {n : Nat} {o : Operation}
  {p : Program o.Result}

/-- Once the full role is stored it stays where it is. -/
theorem createRole (hp : Founding name M t n o p) (fresh : RoleId) :
    Founding name M (t.createRole .full fresh).2 n o p := by
  cases hp with
  | interning hn hm => exact .interning hn hm
  | storing hn hm hr => exact .storing hn hm (by rwa [Tables.createRole_stored hr])
  | founded hn hg => exact .founded hn (by rwa [Tables.createRole_stored hg.role])
  | refused ht =>
    refine .refused ?_
    rw [Tables.named, Tables.createRole_groups]
    exact ht

/-- Whatever is stored while the name is free, nobody was at its end. -/
theorem of_free {t' : Tables} (hp : Founding name M t n o p) (hfree : t.named name = [])
    (hr : t'.roles = t.roles) : Founding name M t' n o p := by
  cases hp with
  | interning hn hm => exact .interning hn hm
  | storing hn hm hrole => exact .storing hn hm (by rwa [hr])
  | founded hn hg =>
    subst hn
    cases hfree.symm.trans hg.named
  | refused ht => exact absurd hfree ht

theorem turn {s : Store} {a : Agent} (hp : Founding name M s.tables (n + 1) o p)
    (hh : s.held = none)
    (ht : (Prize.name name M).Free s.tables ∨ (Prize.name name M).Taken s.tables) :
    ∃ c next r t, p.settled = .call c next ∧ s.call a c = some (r, { s with tables := t }) ∧
      (Prize.name name M).Turn s.tables t n o (next r).settled := by
  generalize hm : n + 1 = m at hp
  cases hp with
  | @interning raw description g fresh hn hnew =>
    cases hm
    have hcall := Store.atomic_free hh fun t =>
      (.ok (t.createRole .full fresh).1, (t.createRole .full fresh).2)
    refine ⟨_, _, _, _, rfl, hcall, ?_⟩
    refine ⟨⟨1, Nat.le_refl 1, .storing hn hnew (Tables.createRole_get ..)⟩,
      fun _ _ _ h => h.createRole fresh, .inl ⟨rfl, fun hfree => ?_, fun htaken => ?_⟩⟩
    · obtain ⟨hname, hmembers, hroles⟩ := hfree
      refine ⟨?_, ?_, hroles.createRole .full fresh⟩
      · rw [Tables.named, Tables.createRole_groups]
        exact hname
      · rw [Tables.createRole_memberships]
        exact hmembers
    · obtain ⟨g', role, hn', hg⟩ := htaken
      exact ⟨g', role, hn', by rwa [Tables.createRole_stored hg.role]⟩
  | @storing raw description g role hn hnew hr =>
    cases hm
    subst hn
    rcases ht with ⟨hname, hmembers, hroles⟩ | ⟨g', role', hn', hg⟩
    · have hnobody : s.tables.membersOf g.id = [] := by
        rw [Tables.membersOf, hmembers]
        exact List.filter_eq_nil_iff.2 fun m hm he => hnew m hm (of_decide_eq_true he)
      obtain ⟨t, hcreate, hgroup, howner, hsame⟩ :=
        Tables.createGroup_named (.owner g.owner g.id role) hname hnobody rfl
      have hfounded : t.Founded g role := ⟨hgroup, howner, by rwa [hsame], by rwa [hsame]⟩
      refine ⟨_, _, _, t, rfl, Store.write_ok hh hcreate, ?_⟩
      exact ⟨⟨0, Nat.le_refl 0, .founded rfl hfounded⟩, fun _ _ _ h => h.of_free hname hsame,
        .inr ⟨rfl, ⟨hname, hmembers, hroles⟩, g, role, rfl, hfounded⟩⟩
    · have hne : s.tables.named g.name ≠ [] := by
        rw [← hn', hg.named]
        exact List.cons_ne_nil g' []
      refine ⟨_, _, _, s.tables, rfl, Store.write_error hh (Tables.createGroup_taken _ hne), ?_⟩
      exact .same (Nat.le_refl 0) (.refused hne) rfl
  | founded => cases hm
  | refused => cases hm

end Founding

theorem Prize.name_fair (name : String) (M : List Membership) : (Prize.name name M).Fair := by
  refine ⟨fun hp hh ht => hp.turn hh ht, fun hp => ?_, fun hfree htaken => ?_⟩
  · cases hp with
    | @founded raw description g role hn hg => exact .inl ⟨g, rfl⟩
    | refused ht => exact .inr ⟨rfl, fun hfree => ht hfree.1⟩
  · obtain ⟨g, role, rfl, hg⟩ := htaken
    cases hfree.1.symm.trans hg.named

/-- A role that is stored is stored once. -/
theorem RolesSound.rows_filter {roles : Table RoleId Role} (h : RolesSound roles) {id : RoleId}
    {r : Role} (hid : roles.get? id = some r) : (roles.rows.filter fun r' => r' = r) = [r] := by
  refine Table.rows_filter_eq_singleton hid (decide_eq_true rfl) fun id' r' hid' hr' => ?_
  cases of_decide_eq_true hr'
  exact h.distinct id' id r hid' hid

/-- No call stores a role twice. -/
theorem Store.call_rolesSound {s s' : Store} {a : Agent} {c : Call}
    {r : Except StoreFailure c.Result} (h : RolesSound s.tables.roles)
    (hc : s.call a c = some (r, s')) : RolesSound s'.tables.roles := by
  by_cases hm : c.method = .createRole
  · cases c with
    | createRole role fresh =>
      rw [call] at hc
      obtain ⟨-, rfl⟩ := atomic_eq_some hc
      exact h.createRole role fresh
    | _ => cases hm
  · rw [call_keeps_roles hm hc]
    exact h

theorem Service.Reached.rolesSound {policy : Policy} {timeoutMillis : Nat} {clock : Instant}
    {s : Service} (h : s.Reached policy timeoutMillis clock) : RolesSound s.tables.roles := by
  refine h.kept (P := fun t => RolesSound t.roles) trivial (fun _ _ _ _ => .all _)
    (fun hs _ hc => Store.call_rolesSound hs hc) ⟨?_⟩
  intro a b r ha
  cases ha

/-- From every state that operations lead to, when no transaction is open: if registrations are
started, of one valid address that nobody has, with passwords that are taken, or foundations of
groups, of one name that is not blank and not taken, with identifiers that are new to the
memberships, and each makes its two calls at some time, in whatever order the calls come and
whatever the clock shows,

* one of them succeeds;
* all others are told that the address or the name is taken;
* one row has the address or the name, that of the one that succeeds; the owner of the group is its
  one member and administrator, and has the full role, which one row has. -/
theorem races_decided (policy : Policy) (timeoutMillis : Nat) (clock : Instant) (s : Service)
    (hr : s.Reached policy timeoutMillis clock) (hs : s.store.held = none) (actions : List Action)
    (hstart : ∃ o d, .start o d ∈ actions) (hserved : Action.Served 2 0 actions)
    (hdrop : ∀ a, .drop a ∉ actions) :
    let w := World.after { service := s } actions
    let t := w.service.tables
    (∀ email, Email.isValid email = true → (∀ u ∈ s.tables.users.rows, u.email ≠ email) →
      (∀ o d, .start o d ∈ actions → ∃ raw password, o = .register raw password ∧
        Email.normalize raw = email ∧ s.policy.passwords.Accepts password) →
      w.tasks.countP Task.succeeded = 1 ∧
        (∀ task ∈ w.tasks, task.succeeded = true ∨ task.refusal? = some .emailAlreadyInUse) ∧
        ∃ raw password d u calls,
          ⟨.register raw password, d, some (.done (.ok u)), calls⟩ ∈ w.tasks ∧
          (t.users.rows.filter fun v => v.email = email) = [u]) ∧
      ∀ name, name ≠ "" → (∀ g ∈ s.tables.groups.rows, g.name ≠ name) →
        (∀ o d, .start o d ∈ actions → ∃ owner raw description,
          o = .createGroup owner raw description ∧ Text.trim raw = name ∧
          ∀ m ∈ s.tables.memberships.rows, m.group ≠ d.group) →
        w.tasks.countP Task.succeeded = 1 ∧
          (∀ task ∈ w.tasks, task.succeeded = true ∨ task.refusal? = some .groupNameTaken) ∧
          ∃ raw description d g calls role,
            ⟨.createGroup g.owner raw description, d, some (.done (.ok g)), calls⟩ ∈ w.tasks ∧
            (t.groups.rows.filter fun h => h.name = name) = [g] ∧
            (t.memberships.rows.filter fun m => m.group = g.id) =
              [{ user := g.owner, group := g.id, role, isAdmin := true }] ∧
            t.roles.get? role = some .full ∧
            (t.roles.rows.filter fun r => r = .full) = [.full] := by
  intro w t
  have hi : s.Idle := hr.idle hs
  constructor
  · intro email hvalid hnew hcalls
    have hfree : s.tables.addressed email = [] :=
      List.filter_eq_nil_iff.2 fun u hu he => hnew u hu (of_decide_eq_true he)
    have hadmits : ∀ x ∈ actions, (Prize.address email).Admits s.policy 2 x := by
      refine Prize.admits_of_starts hdrop fun o d hm t now => ?_
      obtain ⟨raw, password, rfl, rfl, hp⟩ := hcalls o d hm
      obtain ⟨u, hu, hprogram⟩ := Accounts.register_accepted hvalid hp now d.user d.salt
      rw [Operation.program, hprogram]
      exact .seeking hu
    obtain ⟨hone, hothers, o, d, v, calls, hwinner, hstage⟩ :=
      (Prize.address_fair email).decided hi hfree hadmits hserved hstart
    refine ⟨hone, hothers, ?_⟩
    cases hstage with
    | @registered raw password u hu => exact ⟨raw, password, d, u, calls, hwinner, hu⟩
  · intro name hname hnew hcalls
    have hfree : (Prize.name name s.tables.memberships.rows).Free s.tables :=
      ⟨List.filter_eq_nil_iff.2 fun g hg he => hnew g hg (of_decide_eq_true he), rfl, hr.rolesSound⟩
    have hadmits : ∀ x ∈ actions,
        (Prize.name name s.tables.memberships.rows).Admits s.policy 2 x := by
      refine Prize.admits_of_starts hdrop fun o d hm t now => ?_
      obtain ⟨owner, raw, description, rfl, rfl, hmembers⟩ := hcalls o d hm
      obtain ⟨g, hg, hid, rfl, hprogram⟩ :=
        Groups.create_accepted hname now owner description d.group d.role
      rw [Operation.program, hprogram]
      exact .interning hg (hid ▸ hmembers)
    obtain ⟨hone, hothers, o, d, v, calls, hwinner, hstage⟩ :=
      (Prize.name_fair name _).decided hi hfree hadmits hserved hstart
    refine ⟨hone, hothers, ?_⟩
    cases hstage with
    | @founded raw description g role hg hfounded =>
      subst hg
      exact ⟨raw, description, d, g, calls, role, hwinner, hfounded.named,
        hfounded.members, hfounded.role, hfounded.roles.rows_filter hfounded.role⟩

namespace Sample

/-- Two register one address. Both find it free, and the second is the first to store it. -/
def rivals : List Action :=
  [.start (.register " A@B.C " ⟨""⟩) (draws 4), .start (.register "a@b.c" ⟨""⟩) (draws 5),
    .move 0, .move 1, .move 1, .move 0]

/-- Two found a group of one name. The second comes in when the first has the full role. -/
def founders : List Action :=
  [.start (.createGroup guest "writers" none) (draws 4), .move 0,
    .start (.createGroup stranger " writers " none) (draws 5), .move 1, .move 0, .move 1]

end Sample

open Sample in
/-- Beside a group with two members, one of two registrations succeeds, and one of two foundations
of another group. -/
theorem races_decided_sample :
    let s := (Service.start openPolicy 5000 clock).after steps
    s.Reached openPolicy 5000 clock ∧ s.store.held = none ∧ s.tables.memberships.size = 2 ∧
      (World.after { service := s } rivals).tasks.countP Task.succeeded = 1 ∧
      (∃ u, ((World.after { service := s } rivals).service.tables.users.rows.filter
        fun v => v.email = "a@b.c") = [u]) ∧
      (World.after { service := s } founders).tasks.countP Task.succeeded = 1 ∧
      ∃ g, ((World.after { service := s } founders).service.tables.groups.rows.filter
        fun h => h.name = "writers") = [g] := by
  intro s
  have hr : s.Reached openPolicy 5000 clock := .session steps
  have hi : s.Idle := (Service.start_idle openPolicy 5000 clock).after steps
  have hp : s.policy = openPolicy := (Service.start_idle openPolicy 5000 clock).after_policy steps
  have hregister := (races_decided openPolicy 5000 clock s hr hi.held rivals
    ⟨_, _, List.mem_cons_self⟩ ⟨by decide, by decide, trivial⟩ (by simp [rivals])).1 "a@b.c"
    (by decide +kernel) (by decide +kernel) ?_
  · have hfound := (races_decided openPolicy 5000 clock s hr hi.held founders
      ⟨_, _, List.mem_cons_self⟩ ⟨by decide, by decide, trivial⟩ (by simp [founders])).2 "writers"
      (by decide) (by decide +kernel) ?_
    · obtain ⟨hone, -, -, -, -, u, -, -, hu⟩ := hregister
      obtain ⟨hone', -, -, -, -, g, -, -, -, hg, -⟩ := hfound
      have hmembers : s.tables.memberships.size = 2 := by decide +kernel
      exact ⟨hr, hi.held, hmembers, hone, ⟨u, hu⟩, hone', g, hg⟩
    · intro o d hm
      simp only [founders, List.mem_cons, List.not_mem_nil, or_false, reduceCtorEq, false_or,
        Action.start.injEq] at hm
      obtain ⟨rfl, rfl⟩ | ⟨rfl, rfl⟩ := hm
      · exact ⟨guest, _, none, rfl, by decide +kernel, by decide +kernel⟩
      · exact ⟨stranger, _, none, rfl, by decide +kernel, by decide +kernel⟩
  · have hpassword : s.policy.passwords.Accepts ⟨""⟩ := by
      rw [hp]
      exact ⟨⟨_, rfl⟩, by decide⟩
    intro o d hm
    simp only [rivals, List.mem_cons, List.not_mem_nil, or_false, reduceCtorEq,
      Action.start.injEq] at hm
    obtain ⟨rfl, rfl⟩ | ⟨rfl, rfl⟩ := hm
    · exact ⟨_, ⟨""⟩, rfl, by decide +kernel, hpassword⟩
    · exact ⟨_, ⟨""⟩, rfl, by decide +kernel, hpassword⟩

end GroupAccess
