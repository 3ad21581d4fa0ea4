import GroupAccess.Proofs.Interleaving.Entry
import GroupAccess.Proofs.Session.Interning
import Mathlib.Data.List.Nodup

namespace GroupAccess

open Program

/-- A call for a role is for the one that the program may intern. -/
def Call.Interns (interning? : Option (Role × RoleId)) (c : Call) : Prop :=
  ∀ role fresh, c = .createRole role fresh → interning? = some (role, fresh)

namespace Program

variable {α : Type} {interning? : Option (Role × RoleId)} {p : Program α}

theorem Through.interns (h : p.Through) : Calls (Call.Interns interning?) p :=
  h.mono fun _ hc => hc.elim

theorem Closing.interns (h : p.Closing) : Calls (Call.Interns interning?) p := by
  cases h with
  | through h => exact h.interns
  | last hc h =>
    refine .call ?_ fun r => (h r).interns
    rintro role fresh rfl
    exact absurd rfl hc.1

theorem Transacting.interns (h : p.Transacting) : Calls (Call.Interns interning?) p := by
  induction h with
  | write w _ ih =>
    refine .call ?_ ih
    rintro role fresh hw
    cases w <;> cases hw
  | commit h => exact .call nofun fun r => (h r).interns
  | rollback h => exact .call nofun fun r => (h r).interns

theorem WritesLast.interns (h : WritesLast interning? p) : Calls (Call.Interns interning?) p := by
  induction h with
  | closing h => exact h.interns
  | count e _ ih => exact .count e ih
  | look hc _ ih =>
    refine .call ?_ ih
    rintro role fresh rfl
    cases hc
  | intern hr h =>
    refine .call ?_ fun r => (h r).interns
    rintro role fresh ⟨⟩
    exact hr
  | begin he ho =>
    refine .call nofun fun r => ?_
    cases r with
    | ok _ => exact ho.interns
    | error e => exact (he e).interns

end Program

namespace Action

/-- What the operations that are started draw of one kind. -/
def drawn {α : Type} (f : Draws → α) (actions : List Action) : List α :=
  (actions.filterMap started).map fun x => f x.2

theorem drawn_append {α : Type} (f : Draws → α) (actions more : List Action) :
    drawn f (actions ++ more) = drawn f actions ++ drawn f more := by
  rw [drawn, List.filterMap_append, List.map_append]
  rfl

end Action

namespace Task

/-- The role that the task may intern. -/
def interning? (t : Task) : Option (Role × RoleId) := t.operation.interning? t.draws

/-- What the next step of a task interns, if it is a call for a role that is answered. -/
def interned (a : Agent) (t : Task) (s : Service) : RoleLog :=
  match t.rest with
  | some p =>
    if s.answer? a p = some (.createRole, true) then t.interning?.toList else []
  | none => []

/-- What is left of a task asks for no role but the one that it may intern. -/
def Interns (t : Task) : Prop :=
  ∀ p, t.rest = some p → Calls (Call.Interns t.interning?) p

variable {t : Task} {s : Service} {a : Agent}

/-- A step leaves the roles as they are, or interns the role of its task. -/
theorem move_interns (hp : s.plan = .none) (ht : t.Interns) (a : Agent) :
    (t.interned a s = [] ∧ (t.move a s).2.tables.roles = s.tables.roles) ∨
      ∃ role fresh, t.interning? = some (role, fresh) ∧
        t.interned a s = [(role, fresh)] ∧
        (t.move a s).2.tables = (s.tables.createRole role fresh).2 := by
  obtain ⟨o, d, rest, calls⟩ := t
  cases rest with
  | none => exact .inl ⟨rfl, rfl⟩
  | some p =>
    have hcalls := ht p rfl
    cases hs : p.settled with
    | done r =>
      obtain ⟨k, hk, hn⟩ := s.advance_done (a := a) hs
      left
      simp only [interned, move, hk, hn]
      exact ⟨if_neg (Option.some_ne_none _).symm, trivial⟩
    | count e next => exact absurd hs p.settled_ne_count
    | call c next =>
      cases hc : s.store.call a c with
      | none =>
        obtain ⟨k, hk, hn⟩ := s.advance_waiting hp hs hc
        left
        simp only [interned, move, hk, hn]
        exact ⟨if_neg (Option.some_ne_none _).symm, trivial⟩
      | some answer =>
        obtain ⟨r, store⟩ := answer
        obtain ⟨k, hk, hn⟩ := s.advance_answered hp hs hc
        simp only [interned, move, hk, hn]
        by_cases hm : c.method = .createRole
        · right
          cases c with
          | createRole role fresh =>
            have hi := (hcalls.head hs).1 role fresh rfl
            rw [Store.call] at hc
            obtain ⟨hh, -⟩ := Store.atomic_eq_some hc
            rw [Store.atomic_free hh] at hc
            cases hc
            refine ⟨role, fresh, hi, ?_, rfl⟩
            exact (if_pos rfl).trans (congrArg Option.toList hi)
          | _ => cases hm
        · left
          refine ⟨if_neg fun he => hm ?_, Store.call_keeps_roles hm hc⟩
          exact (Prod.mk.inj (Option.some.inj he)).1

theorem interning_of_interned {role : Role} {id : RoleId} (h : (role, id) ∈ t.interned a s) :
    t.interning? = some (role, id) := by
  unfold interned at h
  split at h
  · split at h
    · exact Option.mem_toList.1 h
    · cases h
  · cases h

theorem interning?_congr {t u : Task} (h : u.started = t.started) :
    u.interning? = t.interning? :=
  congrArg (fun x : Operation × Draws => x.1.interning? x.2) h

theorem Interns.move (hp : s.plan = .none) (ht : t.Interns) : (t.move a s).1.Interns := by
  obtain ⟨o, d, rest, calls⟩ := t
  cases rest with
  | none => exact ht
  | some p =>
    have hcalls := ht p rfl
    obtain ⟨k, hk | ⟨c, next, r, store, hs, -, hk⟩⟩ := move_cases d calls hp a p
    · rw [hk]
      rintro - ⟨⟩
      exact hcalls.settled
    · rw [hk]
      rintro - ⟨⟩
      exact ((hcalls.head hs).2 r).settled

theorem Interns.drop (ht : t.Interns) : (t.drop a s).1.Interns := by
  unfold Task.drop
  split
  · exact ht
  · exact ht
  · exact nofun

theorem drop_keeps_roles (a : Agent) (t : Task) (s : Service) :
    (t.drop a s).2.tables.roles = s.tables.roles := by
  unfold drop
  split
  · rfl
  · rfl
  · exact s.store.abandon_keeps_roles a

end Task

namespace World

/-- What an action interns. -/
def interned (w : World) : Action → RoleLog
  | .move a => ((w.tasks[a]?).map fun t => t.interned a w.service).getD []
  | _ => []

/-- What some actions intern: each call for a role that is answered, also that of an operation that
is dropped or refused afterwards. -/
def internings (w : World) : List Action → RoleLog
  | [] => []
  | x :: rest => w.interned x ++ (w.step x).internings rest

theorem internings_append (w : World) (actions more : List Action) :
    w.internings (actions ++ more) = w.internings actions ++ (w.after actions).internings more := by
  induction actions generalizing w with
  | nil => rfl
  | cons x actions ih =>
    rw [List.cons_append, internings, ih, internings, List.append_assoc]
    rfl

theorem replace_interns {w : World} (hw : ∀ t ∈ w.tasks, t.Interns) (a : Agent) {t : Task}
    (ht : t.Interns) (s : Service) : ∀ u ∈ (w.replace a t s).tasks, u.Interns := by
  intro u hu
  rcases List.mem_or_eq_of_mem_set hu with hu | rfl
  · exact hw u hu
  · exact ht

theorem step_interns {w : World} (hp : w.service.plan = .none) (hw : ∀ t ∈ w.tasks, t.Interns)
    (x : Action) : ∀ t ∈ (w.step x).tasks, t.Interns := by
  cases x with
  | start o d =>
    intro t ht
    rcases List.mem_append.1 ht with ht | ht
    · exact hw t ht
    · cases List.mem_singleton.1 ht
      rintro - ⟨⟩
      exact (program_writesLast ..).interns
  | move a =>
    refine act_cases (P := fun v => ∀ t ∈ v.tasks, t.Interns) hw fun t ht => ?_
    exact replace_interns hw a ((hw t (List.mem_of_getElem? ht)).move hp) _
  | drop a =>
    refine act_cases (P := fun v => ∀ t ∈ v.tasks, t.Interns) hw fun t ht => ?_
    exact replace_interns hw a (hw t (List.mem_of_getElem? ht)).drop _
  | setClock | setFaults => exact hw

/-- What an action interns is the role of a task. -/
theorem interning_of_interned {w : World} {x : Action} {role : Role} {id : RoleId}
    (h : (role, id) ∈ w.interned x) : ∃ t ∈ w.tasks, t.interning? = some (role, id) := by
  cases x with
  | move a =>
    rw [interned] at h
    cases ht : w.tasks[a]? with
    | none =>
      rw [ht] at h
      cases h
    | some t =>
      rw [ht, Option.map_some, Option.getD_some] at h
      exact ⟨t, List.mem_of_getElem? ht, Task.interning_of_interned h⟩
  | _ => cases h

/-- The tables hold the roles of the log, which are roles that tasks may intern. -/
structure Recorded (w : World) (log : RoleLog) : Prop where
  plan : w.service.plan = .none
  roles : w.service.tables.Interned log
  tasks : ∀ t ∈ w.tasks, t.Interns
  drawn : ∀ role id, (role, id) ∈ log → ∃ t ∈ w.tasks, t.interning? = some (role, id)

namespace Recorded

variable {w : World} {log : RoleLog}

/-- The identifier that a task draws for its role is in the log for no other role. -/
theorem eq_of_mem (h : w.Recorded log) (hd : (w.tasks.map fun t => t.draws.role).Nodup) {t : Task}
    (ht : t ∈ w.tasks) {role r : Role} {fresh : RoleId} (hi : t.interning? = some (role, fresh))
    (hr : (r, fresh) ∈ log) : r = role := by
  obtain ⟨u, hu, hui⟩ := h.drawn r fresh hr
  have hdraw : u.draws.role = t.draws.role :=
    (Operation.interning?_role hui).symm.trans (Operation.interning?_role hi)
  cases List.inj_on_of_nodup_map hd hu ht hdraw
  exact congrArg Prod.fst (Option.some.inj (hui.symm.trans hi))

theorem roles_step (h : w.Recorded log) (hd : (w.tasks.map fun t => t.draws.role).Nodup)
    (x : Action) : (w.step x).service.tables.Interned (log ++ w.interned x) := by
  have hsame (hn : w.interned x = []) (hr : (w.step x).service.tables.roles =
      w.service.tables.roles) : (w.step x).service.tables.Interned (log ++ w.interned x) := by
    rw [hn, List.append_nil]
    exact h.roles.congr hr
  cases x with
  | start | setClock | setFaults => exact hsame rfl rfl
  | drop a =>
    refine hsame rfl ?_
    exact act_cases (P := fun v => v.service.tables.roles = _) rfl fun t _ =>
      t.drop_keeps_roles a w.service
  | move a =>
    cases ht : w.tasks[a]? with
    | none =>
      refine hsame ?_ ?_
      · rw [interned, ht]
        rfl
      · rw [step, act, ht]
    | some t =>
      have hmem : t ∈ w.tasks := List.mem_of_getElem? ht
      have hlog : w.interned (.move a) = t.interned a w.service := by
        rw [interned, ht]
        rfl
      rw [step, act_of_some ht] at hsame ⊢
      rcases t.move_interns h.plan (h.tasks t hmem) a with ⟨hn, hr⟩ | ⟨role, fresh, hi, hn, hr⟩
      · exact hsame (hlog.trans hn) hr
      · rw [hlog, hn, replace, hr]
        exact h.roles.createRole fun r hm => h.eq_of_mem hd hmem hi hm

theorem step (h : w.Recorded log) (hd : (w.tasks.map fun t => t.draws.role).Nodup) (x : Action) :
    (w.step x).Recorded (log ++ w.interned x) := by
  refine ⟨step_plan h.plan x, h.roles_step hd x, step_interns h.plan h.tasks x, ?_⟩
  intro role id hm
  have hbefore : ∃ t ∈ w.tasks, t.interning? = some (role, id) :=
    (List.mem_append.1 hm).elim (h.drawn role id) interning_of_interned
  obtain ⟨t, ht, hi⟩ := hbefore
  have hs : t.started ∈ (w.step x).tasks.map Task.started := by
    rw [step_started]
    exact List.mem_append_left _ (List.mem_map_of_mem ht)
  obtain ⟨u, hu, hut⟩ := List.mem_map.1 hs
  exact ⟨u, hu, (Task.interning?_congr hut).trans hi⟩

theorem start (policy : Policy) (timeoutMillis : Nat) (clock : Instant) :
    (World.start policy timeoutMillis clock).Recorded [] :=
  ⟨rfl, .empty, fun _ ht => absurd ht List.not_mem_nil, fun _ _ hm => absurd hm List.not_mem_nil⟩

end Recorded

theorem drawn_eq (w : World) :
    w.tasks.map (fun t => t.draws.role) = (w.tasks.map Task.started).map fun x => x.2.role := by
  rw [List.map_map]
  rfl

theorem recorded_after (policy : Policy) (timeoutMillis : Nat) (clock : Instant)
    {actions : List Action} (h : (Action.drawn Draws.role actions).Nodup) :
    ((World.start policy timeoutMillis clock).after actions).Recorded
      ((World.start policy timeoutMillis clock).internings actions) := by
  induction actions using List.reverseRecOn with
  | nil => exact .start policy timeoutMillis clock
  | append_singleton actions x ih =>
    have hbefore : (Action.drawn Draws.role actions).Nodup := by
      rw [Action.drawn_append] at h
      exact (List.nodup_append.1 h).1
    have hlog (w : World) : w.internings [x] = w.interned x := List.append_nil _
    rw [after_concat, internings_append, hlog]
    refine (ih hbefore).step ?_ x
    rw [drawn_eq, after_started]
    exact hbefore

end World

/-- Whether operations are carried out one after the other or at the same time, and whatever they
delete: as long as a role was not interned it has no identifier, and from then on it has the one
that was drawn for it when it was interned first. By this identifier it is found as it was interned,
not in effect, and to intern it again changes nothing. -/
theorem roles_interned (policy : Policy) (timeoutMillis : Nat) (clock : Instant) (role : Role) :
    (∀ steps more, (Step.drawn Draws.role (steps ++ more)).Nodup →
      let s := Service.start policy timeoutMillis clock
      ((∀ id, (role, id) ∉ s.internings steps) →
        ∀ d, ((s.after steps).perform (.findRoleId role) d).1 = .ok none) ∧
      ∀ id, (s.internings steps).lookup role = some id →
        (s.after (steps ++ more)).Identifies role id) ∧
    ∀ actions more, (Action.drawn Draws.role (actions ++ more)).Nodup →
      let w := World.start policy timeoutMillis clock
      ((∀ id, (role, id) ∉ w.internings actions) → (w.after actions).service.store.held = none →
        ∀ d, ((w.after actions).service.perform (.findRoleId role) d).1 = .ok none) ∧
      ∀ id, (w.internings actions).lookup role = some id →
        (w.after (actions ++ more)).service.tables.roles.get? id = some role ∧
        ((w.after (actions ++ more)).service.store.held = none →
          (w.after (actions ++ more)).service.Identifies role id) := by
  constructor
  · intro steps more hd s
    have hi := Service.start_idle policy timeoutMillis clock
    have hbefore : (Step.drawn Draws.role steps).Nodup := by
      rw [Step.drawn_append] at hd
      exact (List.nodup_append.1 hd).1
    refine ⟨fun hn d => ?_, fun id hl => ?_⟩
    · rw [(hi.after steps).perform_findRoleId (Service.recorded_after hbefore).roles,
        RoleLog.lookup_eq_none hn]
    · refine (hi.after (steps ++ more)).identifies (Service.recorded_after hd).roles ?_
      rw [Service.internings_append]
      exact RoleLog.lookup_append_of_some hl _
  · intro actions more hd w
    have hbefore : (Action.drawn Draws.role actions).Nodup := by
      rw [Action.drawn_append] at hd
      exact (List.nodup_append.1 hd).1
    have hafter := World.recorded_after policy timeoutMillis clock hbefore
    have hlater := World.recorded_after policy timeoutMillis clock hd
    refine ⟨fun hn hh d => ?_, fun id hl => ?_⟩
    · have hi : (w.after actions).service.Idle := ⟨hafter.plan, hh⟩
      rw [hi.perform_findRoleId hafter.roles, RoleLog.lookup_eq_none hn]
    · have hl : (w.internings (actions ++ more)).lookup role = some id := by
        rw [World.internings_append]
        exact RoleLog.lookup_append_of_some hl _
      refine ⟨(hlater.roles id role).2 hl, fun hh => ?_⟩
      have hi : (w.after (actions ++ more)).service.Idle := ⟨hlater.plan, hh⟩
      exact hi.identifies hlater.roles hl

namespace Sample

/-- Has a positive level and is not in effect. -/
def adjutant : Role := { admin := 1 }

/-- A user founds a group and invites an adjutant. -/
def granting : List Step :=
  [entry, .perform (.createGroup member "readers" none) (draws 2),
    .perform (.createInvite member ⟨uuid 2⟩ adjutant 1) (draws 3)]

/-- The user is deleted, and with it the group and the invite. -/
def departure : List Step :=
  [.perform (.deleteUser member) (draws 4), .perform (.createRole adjutant) (draws 5)]

/-- A foundation is dropped when it has interned the full role, and another one goes on. -/
def halting : List Action :=
  [.start (.createGroup owner "readers" none) (draws 1),
    .start (.createGroup owner "writers" none) (draws 2), .move 0, .drop 0]

end Sample

open Sample in
/-- A role whose level is positive keeps its identifier and stays as it is when all else is gone, a
negative level stands for no other role, and the role of a foundation that is dropped stays. -/
theorem roles_interned_sample :
    (Step.drawn Draws.role (granting ++ departure)).Nodup ∧
      ((Service.start openPolicy 5000 clock).after (granting ++ departure)).tables.invites.size =
        0 ∧
      ((Service.start openPolicy 5000 clock).after (granting ++ departure)).Identifies adjutant
        ⟨uuid 3⟩ ∧
      (∀ d, (((Service.start openPolicy 5000 clock).after granting).perform
        (.findRoleId { admin := -1 }) d).1 = .ok none) ∧
      (Action.drawn Draws.role (halting ++ [Action.move 1])).Nodup ∧
      (World.after (.start openPolicy 5000 clock) (halting ++ [Action.move 1])).service.Identifies
        .full ⟨uuid 1⟩ := by
  have hsession (role : Role) := (roles_interned openPolicy 5000 clock role).1 granting departure
    (by decide)
  have hworld := (roles_interned openPolicy 5000 clock .full).2 halting [Action.move 1] (by decide)
  have hlog : (Service.start openPolicy 5000 clock).internings granting =
      [(.full, ⟨uuid 2⟩), (adjutant, ⟨uuid 3⟩)] := by decide +kernel
  refine ⟨by decide, by decide +kernel, (hsession adjutant).2 _ (by decide +kernel),
    (hsession { admin := -1 }).1 ?_, by decide,
    (hworld.2 ⟨uuid 1⟩ (by decide +kernel)).2 (by decide +kernel)⟩
  intro id hm
  rw [hlog] at hm
  rcases List.mem_cons.1 hm with he | hm
  · cases he
  · cases List.mem_singleton.1 hm

end GroupAccess
