import GroupAccess.Proofs.Operation.WriteOrder
import GroupAccess.Proofs.Session.Basic
import GroupAccess.Proofs.Store.Interning

namespace GroupAccess

open Step

/-- The role that an operation may intern, with the identifier that is drawn for it. -/
def Operation.interning? (o : Operation) (d : Draws) : Option (Role × RoleId) :=
  o.interns?.map (·, d.role)

theorem Operation.interning?_role {o : Operation} {d : Draws} {role : Role} {id : RoleId}
    (h : o.interning? d = some (role, id)) : id = d.role := by
  obtain ⟨r, -, he⟩ := Option.map_eq_some_iff.1 h
  exact (Prod.mk.inj he).2.symm

/-- What an operation that is answered with `r` has interned. -/
def Operation.interned (o : Operation) (d : Draws) (r : Except Refusal o.Result) : RoleLog :=
  if r.isOk then (o.interning? d).toList else []

namespace Service

/-- What a step interns: the role of an operation that succeeds. -/
def interned (s : Service) : Step → RoleLog
  | .perform o d => o.interned d (s.perform o d).1
  | .setClock _ => []
  | .setFaults _ _ => []

def internings (s : Service) : List Step → RoleLog
  | [] => []
  | x :: rest => s.interned x ++ (s.step x).internings rest

theorem internings_append (s : Service) (steps more : List Step) :
    s.internings (steps ++ more) = s.internings steps ++ (s.after steps).internings more := by
  induction steps generalizing s with
  | nil => rfl
  | cons x steps ih =>
    rw [List.cons_append, internings, ih, internings, List.append_assoc]
    rfl

theorem internings_concat (s : Service) (steps : List Step) (x : Step) :
    s.internings (steps ++ [x]) = s.internings steps ++ (s.after steps).interned x := by
  rw [internings_append, internings, internings, List.append_nil]

/-- What was interned was drawn. -/
theorem drawn_of_internings {s : Service} {steps : List Step} {role : Role} {id : RoleId}
    (h : (role, id) ∈ s.internings steps) : id ∈ drawn Draws.role steps := by
  induction steps generalizing s with
  | nil => cases h
  | cons x steps ih =>
    have hdrawn : drawn Draws.role (x :: steps) =
        drawn Draws.role [x] ++ drawn Draws.role steps := drawn_append _ [x] steps
    rw [hdrawn]
    rcases List.mem_append.1 h with hown | hlater
    · refine List.mem_append_left _ ?_
      cases x with
      | perform o d =>
        rw [interned, Operation.interned] at hown
        split at hown
        · rw [Operation.interning?_role (Option.mem_toList.1 hown)]
          exact List.mem_singleton_self _
        · cases hown
      | setClock now => cases hown
      | setFaults tokenWrites commits => cases hown
    · exact List.mem_append_right _ (ih hlater)

end Service

/-- The tables hold the roles of the log, among them the full role if there is a group. -/
structure Tables.Recorded (t : Tables) (log : RoleLog) : Prop where
  roles : t.Interned log
  full : ∀ id g, t.groups.get? id = some g → ∃ role, log.lookup .full = some role

namespace Tables.Recorded

variable {t t' : Tables} {log : RoleLog}

theorem empty : Recorded {} [] := ⟨.empty, fun _ _ hg => nomatch hg⟩

/-- Groups may be taken away, and all but the roles may change. -/
theorem of_subset (h : t.Recorded log) (hr : t'.roles = t.roles)
    (hg : ∀ id g, t'.groups.get? id = some g → t.groups.get? id = some g) :
    t'.Recorded log :=
  ⟨h.roles.congr hr, fun id g hid => h.full id g (hg id g hid)⟩

theorem createRole (h : t.Recorded log) (role : Role) {fresh : RoleId}
    (hf : ∀ r, (r, fresh) ∉ log) :
    (t.createRole role fresh).2.Recorded (log ++ [(role, fresh)]) := by
  refine ⟨h.roles.createRole fun r hr => absurd hr (hf r), fun id g hg => ?_⟩
  rw [createRole_groups] at hg
  obtain ⟨known, hl⟩ := h.full id g hg
  exact ⟨known, RoleLog.lookup_append_of_some hl _⟩

/-- An operation adds to the roles what it interns, and takes none away. -/
theorem outcome {now : Instant} {d : Draws} {o : Operation} {r : Except Refusal o.Result}
    (h : t.Recorded log) (hf : ∀ role, (role, d.role) ∉ log) (ho : Outcome now d t o r t') :
    t'.Recorded (log ++ o.interned d r) := by
  have hn (hi : o.interns? = none) : o.interned d r = [] := by
    simp only [Operation.interned, Operation.interning?, hi]
    exact ite_self []
  cases ho with
  | refused e => rwa [Operation.interned, if_neg nofun, List.append_nil]
  | kept a hk =>
    rw [hn (by cases o <;> first | rfl | cases hk), List.append_nil]
    exact h
  | secretStored hs =>
    rw [hn (by cases o <;> first | rfl | cases hs), List.append_nil]
    exact h.of_subset rfl fun _ _ hg => hg
  | registered | purged | redeemed =>
    rw [hn rfl, List.append_nil]
    exact h.of_subset rfl fun _ _ hg => hg
  | deleted =>
    rw [hn rfl, List.append_nil]
    exact h.of_subset rfl fun _ _ hg => (Table.get?_filter_eq_some.1 hg).1
  | roleStored => exact h.createRole _ hf
  | nameTaken hg =>
    -- The full role was interned for the group that has the name.
    obtain ⟨id, hid⟩ := Table.mem_rows.1 hg
    obtain ⟨known, hl⟩ := h.full id _ hid
    rw [h.roles.createRole_again hl, Operation.interned, if_neg nofun, List.append_nil]
    exact h
  | founded =>
    have hrole := h.createRole .full hf
    exact ⟨hrole.roles, fun _ _ _ => ⟨_, (hrole.roles _ _).1 (createRole_get ..)⟩⟩
  | @invited _ _ role => exact (h.createRole role hf).of_subset rfl fun _ _ hg => hg

end Tables.Recorded

namespace Service

variable {policy : Policy} {timeoutMillis : Nat} {clock : Instant}

theorem recorded_after {steps : List Step} (h : (drawn Draws.role steps).Nodup) :
    ((start policy timeoutMillis clock).after steps).tables.Recorded
      ((start policy timeoutMillis clock).internings steps) := by
  induction steps using List.reverseRecOn with
  | nil => exact .empty
  | append_singleton steps x ih =>
    have hbefore : (drawn Draws.role steps).Nodup := by
      rw [drawn_append] at h
      exact (List.nodup_append.1 h).1
    rw [after_concat, internings_concat]
    cases x with
    | perform o d =>
      have hnew : d.role ∉ drawn Draws.role steps := DrawnOnce.last h
      have ho := ((start_idle policy timeoutMillis clock).after steps).step_outcome o d
      exact (ih hbefore).outcome (fun r hr => hnew (drawn_of_internings hr)) ho
    | setClock now =>
      rw [interned, List.append_nil]
      exact ih hbefore
    | setFaults tokenWrites commits =>
      rw [interned, List.append_nil]
      exact ih hbefore

/-- A role has an identifier: it is found by the role, interning the role again gives it and changes
nothing in the store, the role is found by it as it was interned, and no other role has it. -/
structure Identifies (s : Service) (role : Role) (id : RoleId) : Prop where
  found : ∀ d, (s.perform (.findRoleId role) d).1 = .ok (some id)
  again : ∀ d, (s.perform (.createRole role) d).1 = .ok id ∧
    (s.perform (.createRole role) d).2.store = s.store
  stored : ∀ k, s.store.call k (.findRole id) = some (.ok (some role), s.store)
  unique : ∀ other d, (s.perform (.findRoleId other) d).1 = .ok (some id) → other = role

namespace Idle

variable {s : Service} {log : RoleLog}

theorem perform_findRoleId (h : s.Idle) (hr : s.tables.Interned log) (role : Role) (d : Draws) :
    (s.perform (.findRoleId role) d).1 = .ok (log.lookup role) := by
  rw [perform_eq (o := .findRoleId role) (h.run_ask (h.read _)), hr.findRoleId]

theorem identifies (h : s.Idle) (hr : s.tables.Interned log) {role : Role} {id : RoleId}
    (hl : log.lookup role = some id) : s.Identifies role id := by
  constructor
  · intro d
    rw [h.perform_findRoleId hr, hl]
  · intro d
    have hw := h.atomic fun t => (.ok (t.createRole role d.role).1, (t.createRole role d.role).2)
    rw [perform_eq (o := .createRole role) (h.run_ask hw), hr.createRole_again hl]
    exact ⟨rfl, rfl⟩
  · intro k
    rw [Store.call, h.read, (hr id role).2 hl]
  · intro other d ho
    rw [h.perform_findRoleId hr] at ho
    exact hr.role_unique (Except.ok.inj ho) hl

end Idle

end Service

end GroupAccess
