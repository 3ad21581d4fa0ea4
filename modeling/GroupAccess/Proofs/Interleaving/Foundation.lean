import GroupAccess.Proofs.Interleaving.Interning
import GroupAccess.Proofs.Interleaving.Validity
import GroupAccess.Proofs.Operation.Grounding

namespace GroupAccess

namespace Tables

variable {t t' t'' : Tables} {log : RoleLog}

/-- The roles that were stored are stored still, as they were. -/
def KeepsRoles (t t' : Tables) : Prop :=
  ∀ id r, t.roles.get? id = some r → t'.roles.get? id = some r

theorem KeepsRoles.trans (h : t.KeepsRoles t') (h' : t'.KeepsRoles t'') : t.KeepsRoles t'' :=
  fun id r hr => h' id r (h id r hr)

/-- What was interned first stays. -/
theorem Interned.keepsRoles {more : RoleLog} (h : t.Interned log) (h' : t'.Interned (log ++ more)) :
    t.KeepsRoles t' :=
  fun id r hr => (h' id r).2 (RoleLog.lookup_append_of_some ((h id r).1 hr) more)

namespace KnowsFull

theorem empty : KnowsFull {} := fun _ _ hg => nomatch hg

theorem of_subset (h : t.KnowsFull) (hr : t.KeepsRoles t')
    (hg : ∀ id g, t'.groups.get? id = some g → t.groups.get? id = some g) : t'.KnowsFull := by
  intro id g hid
  obtain ⟨role, hrole⟩ := h id g (hg id g hid)
  exact ⟨role, hr role _ hrole⟩

theorem of_groups (h : t.KnowsFull) (hr : t.KeepsRoles t') (hg : t'.groups = t.groups) :
    t'.KnowsFull := by
  apply h.of_subset hr
  rw [hg]
  exact fun id g hid => hid

end KnowsFull

end Tables

namespace Call

/-- A group is founded with a member that has the full role. -/
def Founds (t : Tables) : Call → Prop
  | .createGroup _ _ => ∃ role, t.roles.get? role = some .full
  | _ => True

/-- A role is stored under the identifier that is given for it. -/
def TellsRole (t : Tables) : (c : Call) → Except StoreFailure c.Result → Prop
  | .createRole role _, .ok id => t.roles.get? id = some role
  | _, _ => True

theorem TellsRole.mono {c : Call} {t t' : Tables} {r : Except StoreFailure c.Result}
    (h : c.TellsRole t r) (ht : t.KeepsRoles t') : c.TellsRole t' r := by
  cases r with
  | error e => cases c <;> trivial
  | ok a =>
    cases c with
    | createRole role fresh => exact ht _ _ h
    | _ => trivial

theorem founds_of_other {c : Call} (hm : c.method ≠ .createGroup) (t : Tables) : c.Founds t := by
  cases c <;> first | exact True.intro | exact absurd rfl hm

end Call

/-- Whoever founds a group was told of the full role, and roles stay as they are. -/
def Reliance.onFullRole : Reliance where
  Keeps := Tables.KeepsRoles
  Needs := Call.Founds
  Shows := Call.TellsRole
  refl _ _ _ hr := hr
  trans := .trans
  shows_mono ht hr := hr.mono ht
  rollback _ := trivial

open Program

/-- An operation stores no group before the full role. -/
theorem program_founds (policy : Policy) (now : Instant) (d : Draws) (o : Operation) (t : Tables) :
    Reliance.onFullRole.Holds t (o.program policy now d) := by
  intro u _
  have hplain {o : Operation} (hm : .createGroup ∉ o.methods) :
      (o.program policy now d).Relies (Call.Founds u) (Call.TellsRole u) := by
    refine .of_calls ((program_calls policy now d o).mono fun c hc => ?_)
    exact Call.founds_of_other (fun he => hm (he ▸ hc)) u
  cases o with
  | createGroup owner name description =>
    rw [Operation.program, Groups.create_eq]
    split
    · exact .done _
    refine .ask_bind trivial fun role hrole => ?_
    exact .ask_bind ⟨role, hrole⟩ fun _ _ => .done _
  | _ => exact hplain (by simp [Operation.methods])

theorem Store.call_createRole_tells {s s' : Store} {a : Agent} {role : Role} {fresh : RoleId}
    {r : Except StoreFailure RoleId} (hc : s.call a (.createRole role fresh) = some (r, s')) :
    (Call.createRole role fresh).TellsRole s'.tables r := by
  obtain ⟨t, held, tokens, fails⟩ := s
  cases held with
  | some y => cases hc
  | none =>
    cases hc
    exact t.createRole_get role fresh

theorem Store.call_knowsFull {s s' : Store} {a : Agent} {c : Call}
    {r : Except StoreFailure c.Result} (h : s.tables.KnowsFull) (hn : c.Founds s.tables)
    (hk : s.tables.KeepsRoles s'.tables) (hc : s.call a c = some (r, s')) :
    s'.tables.KnowsFull := by
  cases ht : c.method.transacts with
  | true =>
    refine h.of_groups hk (call_transacts (P := fun t => t.groups = s.tables.groups) ?_ ?_ ht rfl hc)
    · rintro (invite | m) t h <;> exact h
    · rintro (invite | key) t h <;> exact h
  | false =>
    have hm := call_moved ht hc
    revert hk
    generalize s'.tables = t' at hm
    intro hk
    cases hm with
    | kept hg => exact h.of_groups hk hg
    | founded g owner =>
      obtain ⟨role, hrole⟩ := hn
      exact fun _ _ _ => ⟨role, hrole⟩
    | deleted user => exact h.of_subset hk fun _ _ hg => (Table.get?_filter_eq_some.1 hg).1
    | invited i => exact h.of_groups hk rfl

namespace World

/-- The full role is stored if there is a group, and it is for each task that founds one. -/
structure Founded (w : World) : Prop where
  tables : w.service.tables.KnowsFull
  tasks : w.Relies .onFullRole w.service.tables

theorem Founded.step {w : World} {log more : RoleLog} (h : w.Founded) {x : Action}
    (hw : w.Recorded log) (hw' : (w.step x).Recorded (log ++ more)) : (w.step x).Founded := by
  have hk := hw.roles.keepsRoles hw'.roles
  cases h.tasks.step hw.plan (fun o d => program_founds _ _ d o _) x with
  | none ht hr => exact ⟨ht ▸ h.tables, ht ▸ hr⟩
  | @answered a c r hn hc hr =>
    refine ⟨Store.call_knowsFull h.tables hn hk hc, hr _ hk ?_⟩
    cases c with
    | createRole role fresh => exact Store.call_createRole_tells hc
    | _ => trivial

theorem founded_after (policy : Policy) (timeoutMillis : Nat) (clock : Instant)
    {actions : List Action} (h : (Action.drawn Draws.role actions).Nodup) :
    ((World.start policy timeoutMillis clock).after actions).Founded := by
  induction actions using List.reverseRecOn with
  | nil => exact ⟨.empty, fun _ ht => absurd ht List.not_mem_nil⟩
  | append_singleton actions x ih =>
    have hbefore : (Action.drawn Draws.role actions).Nodup := by
      rw [Action.drawn_append] at h
      exact (List.nodup_append.1 h).1
    have hlater := recorded_after policy timeoutMillis clock h
    rw [internings_append] at hlater
    rw [after_concat] at hlater ⊢
    exact (ih hbefore).step (recorded_after policy timeoutMillis clock hbefore) hlater

end World

namespace Service

/-- The services that operations lead to from empty tables, with what the operations have drawn. -/
inductive ReachedBy (policy : Policy) (timeoutMillis : Nat) (clock : Instant) :
    List Draws → Service → Prop
  | session (steps : List Step) : ReachedBy policy timeoutMillis clock (steps.filterMap Step.draws)
      ((start policy timeoutMillis clock).after steps)
  | world (actions : List Action) : ReachedBy policy timeoutMillis clock
      ((actions.filterMap Action.started).map Prod.snd)
      ((World.start policy timeoutMillis clock).after actions).service

namespace ReachedBy

variable {policy : Policy} {timeoutMillis : Nat} {clock : Instant} {ds : List Draws} {s : Service}

theorem reached (h : s.ReachedBy policy timeoutMillis clock ds) :
    s.Reached policy timeoutMillis clock := by
  cases h with
  | session steps => exact .session steps
  | world actions => exact .world actions

/-- As long as no identifier is drawn for two roles, the full role is not lost. -/
theorem knowsFull (h : s.ReachedBy policy timeoutMillis clock ds)
    (hd : (ds.map Draws.role).Nodup) : s.tables.KnowsFull := by
  cases h with
  | session steps =>
    have hr : Tables.Recorded _ ((start policy timeoutMillis clock).internings steps) :=
      recorded_after hd
    intro id g hg
    obtain ⟨role, hl⟩ := hr.full id g hg
    exact ⟨role, (hr.roles role .full).2 hl⟩
  | world actions =>
    rw [List.map_map] at hd
    exact (World.founded_after policy timeoutMillis clock hd).tables

end ReachedBy

end Service

end GroupAccess
