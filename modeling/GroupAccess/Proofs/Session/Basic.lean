import GroupAccess.Proofs.Operation.Outcome
import Mathlib.Data.List.Induction

namespace GroupAccess

inductive Step
  | perform (o : Operation) (d : Draws)
  | setClock (now : Instant)
  /-- Makes writes of tokens and commits fail, or not. -/
  | setFaults (tokenWrites commits : Bool)

namespace Step

/-- The fresh values of the operation, if it is one. -/
def draws : Step → Option Draws
  | perform _ d => some d
  | _ => none

/-- What the operations of some steps draw of one kind. -/
def drawn {α : Type} (f : Draws → α) (steps : List Step) : List α :=
  (steps.filterMap draws).map f

variable {α : Type} (f : Draws → α) (steps : List Step)

theorem drawn_append (more : List Step) :
    drawn f (steps ++ more) = drawn f steps ++ drawn f more := by
  rw [drawn, List.filterMap_append, List.map_append]
  rfl

@[simp] theorem drawn_perform (o : Operation) (d : Draws) :
    drawn f (steps ++ [perform o d]) = drawn f steps ++ [f d] :=
  drawn_append ..

end Step

open Step

/-- No identifier is drawn twice. -/
structure DrawnOnce (steps : List Step) : Prop where
  users : (drawn Draws.user steps).Nodup
  groups : (drawn Draws.group steps).Nodup
  roles : (drawn Draws.role steps).Nodup
  invites : (drawn Draws.invite steps).Nodup
  tokens : (drawn Draws.token steps).Nodup

theorem DrawnOnce.init {steps more : List Step} (h : DrawnOnce (steps ++ more)) :
    DrawnOnce steps := by
  obtain ⟨hu, hg, hr, hi, ht⟩ := h
  simp only [drawn_append, List.nodup_append] at *
  exact ⟨hu.1, hg.1, hr.1, hi.1, ht.1⟩

/-- What a last operation draws was not drawn before. -/
theorem DrawnOnce.last {steps : List Step} {o : Operation} {d : Draws} {α : Type} {f : Draws → α}
    (hf : (drawn f (steps ++ [.perform o d])).Nodup) : f d ∉ drawn f steps := by
  rw [drawn_perform, List.nodup_append] at hf
  exact fun hm => hf.2.2 _ hm _ (List.mem_singleton_self _) rfl

/-- None of the identifiers that an operation may give to a row is in use. -/
structure Tables.Fresh (t : Tables) (d : Draws) : Prop where
  group : t.groups.get? d.group = none
  role : t.roles.get? d.role = none
  invite : t.invites.get? d.invite = none

namespace Service

/-- A service with empty tables. -/
def start (policy : Policy) (timeoutMillis : Nat) (clock : Instant) : Service :=
  { policy, timeoutMillis, clock }

def step (s : Service) : Step → Service
  | .perform o d => (s.perform o d).2
  | .setClock now => { s with clock := now }
  | .setFaults tokenWrites commits =>
    { s with store := { s.store with failsTokenWrites := tokenWrites, failsCommits := commits } }

/-- The service after some steps. -/
def after (s : Service) (steps : List Step) : Service := steps.foldl step s

theorem after_append (s : Service) (steps more : List Step) :
    s.after (steps ++ more) = (s.after steps).after more :=
  List.foldl_append

theorem after_concat (s : Service) (steps : List Step) (x : Step) :
    s.after (steps ++ [x]) = (s.after steps).step x := by
  rw [after, List.foldl_append]
  rfl

variable {s : Service}

theorem step_tables {x : Step} (hx : x.draws = none) :
    (s.step x).tables = s.tables := by
  cases x with
  | perform o d => cases hx
  | setClock now => rfl
  | setFaults tokenWrites commits => rfl

theorem Idle.step (h : s.Idle) (x : Step) : (s.step x).Idle := by
  cases x with
  | perform o d =>
    obtain ⟨t, c, hs, -⟩ := h.perform_outcome o d
    rw [Service.step, hs]
    exact h.leaving t c
  | setClock now => exact ⟨h.plan, h.held⟩
  | setFaults tokenWrites commits => exact ⟨h.plan, h.held⟩

/-- No step changes what the service was set up with. -/
theorem Idle.step_policy (h : s.Idle) (x : Step) : (s.step x).policy = s.policy := by
  cases x with
  | perform o d =>
    obtain ⟨t, c, hs, -⟩ := h.perform_outcome o d
    rw [Service.step, hs]
    rfl
  | setClock now => rfl
  | setFaults tokenWrites commits => rfl

theorem Idle.after (h : s.Idle) (steps : List Step) : (s.after steps).Idle := by
  induction steps generalizing s with
  | nil => exact h
  | cons x steps ih => exact ih (h.step x)

theorem Idle.after_policy (h : s.Idle) (steps : List Step) :
    (s.after steps).policy = s.policy := by
  induction steps generalizing s with
  | nil => rfl
  | cons x steps ih => exact (ih (h.step x)).trans (h.step_policy x)

theorem Idle.step_outcome (h : s.Idle) (o : Operation) (d : Draws) :
    Outcome s.clock d s.tables o (s.perform o d).1 (s.step (.perform o d)).tables := by
  obtain ⟨t, c, hs, ho⟩ := h.perform_outcome o d
  rw [Service.step, hs]
  exact ho

theorem start_idle (policy : Policy) (timeoutMillis : Nat) (clock : Instant) :
    (start policy timeoutMillis clock).Idle :=
  ⟨rfl, rfl⟩

end Service

/-- The identifiers of users, groups, roles and invites come from the draws. -/
structure DrawnFrom (steps : List Step) (t : Tables) : Prop where
  users : ∀ id u, t.users.get? id = some u → id ∈ drawn Draws.user steps
  groups : ∀ id g, t.groups.get? id = some g → id ∈ drawn Draws.group steps
  roles : ∀ id r, t.roles.get? id = some r → id ∈ drawn Draws.role steps
  invites : ∀ id i, t.invites.get? id = some i → id ∈ drawn Draws.invite steps

namespace DrawnFrom

variable {steps : List Step} {t t' : Tables} {now : Instant} {o : Operation} {d : Draws}
  {r : Except Refusal o.Result}

theorem fresh (h : DrawnFrom steps t) (hd : DrawnOnce (steps ++ [.perform o d])) : t.Fresh d := by
  refine ⟨?_, ?_, ?_⟩
  · exact Option.eq_none_iff_forall_not_mem.2 fun g hg =>
      DrawnOnce.last hd.groups (h.groups _ g hg)
  · exact Option.eq_none_iff_forall_not_mem.2 fun r hr => DrawnOnce.last hd.roles (h.roles _ r hr)
  · exact Option.eq_none_iff_forall_not_mem.2 fun i hi =>
      DrawnOnce.last hd.invites (h.invites _ i hi)

theorem mono {x : Step} (h : DrawnFrom steps t) : DrawnFrom (steps ++ [x]) t := by
  have hm {α : Type} {f : Draws → α} {a : α} (ha : a ∈ drawn f steps) :
      a ∈ drawn f (steps ++ [x]) := by
    rw [drawn_append]
    exact List.mem_append_left _ ha
  exact ⟨fun id u hu => hm (h.users id u hu), fun id g hg => hm (h.groups id g hg),
    fun id r hr => hm (h.roles id r hr), fun id i hi => hm (h.invites id i hi)⟩

/-- An operation gives new rows no identifiers but its own draws. -/
theorem outcome (h : DrawnFrom steps t) (ho : Outcome now d t o r t') :
    DrawnFrom (steps ++ [.perform o d]) t' := by
  have hown {α : Type} (f : Draws → α) : f d ∈ drawn f (steps ++ [.perform o d]) := by
    rw [drawn_perform]
    exact List.mem_append_right _ (List.mem_singleton_self _)
  have h := h.mono (x := .perform o d)
  have hr (role : Role) (id : RoleId) (r : Role)
      (hid : (t.createRole role d.role).2.roles.get? id = some r) :
      id ∈ drawn Draws.role (steps ++ [.perform o d]) := by
    rcases Tables.createRole_roles hid with hid | ⟨rfl, -, -⟩
    · exact h.roles id r hid
    · exact hown Draws.role
  cases ho with
  | refused | kept | secretStored | purged => exact ⟨h.users, h.groups, h.roles, h.invites⟩
  | registered hid =>
    refine ⟨fun id u hu => ?_, h.groups, h.roles, h.invites⟩
    rcases Table.get?_insert_cases hu with ⟨rfl, -⟩ | hu
    · rw [hid]
      exact hown Draws.user
    · exact h.users id u hu
  | deleted =>
    refine ⟨fun id u hu => ?_, fun id g hg => ?_, h.roles, fun id i hi => ?_⟩
    · exact h.users id u (Table.get?_filter_eq_some.1 hu).1
    · exact h.groups id g (Table.get?_filter_eq_some.1 hg).1
    · exact h.invites id i (Table.get?_filter_eq_some.1 hi).1
  | roleStored | nameTaken =>
    refine ⟨?_, ?_, hr _, ?_⟩
    · rw [Tables.createRole_users]
      exact h.users
    · rw [Tables.createRole_groups]
      exact h.groups
    · rw [Tables.createRole_invites]
      exact h.invites
  | founded hid =>
    refine ⟨?_, fun id g hg => ?_, hr _, ?_⟩
    · dsimp only
      rw [Tables.createRole_users]
      exact h.users
    · rcases Table.get?_insert_cases hg with ⟨rfl, -⟩ | hg
      · rw [hid]
        exact hown Draws.group
      · exact h.groups id g hg
    · dsimp only
      rw [Tables.createRole_invites]
      exact h.invites
  | invited =>
    refine ⟨?_, ?_, hr _, fun id i hi => ?_⟩
    · dsimp only [Tables.createInvite]
      rw [Tables.createRole_users]
      exact h.users
    · dsimp only [Tables.createInvite]
      rw [Tables.createRole_groups]
      exact h.groups
    · dsimp only [Tables.createInvite] at hi
      rw [Tables.createRole_invites] at hi
      rcases Table.get?_insert_cases hi with ⟨rfl, -⟩ | hi
      · exact hown Draws.invite
      · exact h.invites id i hi
  | redeemed =>
    refine ⟨h.users, h.groups, h.roles, fun id i hi => ?_⟩
    obtain ⟨j, hj, -⟩ := Tables.takeUse_invites hi
    exact h.invites id j hj

end DrawnFrom

namespace Service

variable {policy : Policy} {timeoutMillis : Nat} {clock : Instant}

theorem drawnFrom_after (steps : List Step) :
    DrawnFrom steps ((start policy timeoutMillis clock).after steps).tables := by
  induction steps using List.reverseRecOn with
  | nil =>
    refine ⟨?_, ?_, ?_, ?_⟩
    all_goals exact fun id _ hid => nomatch hid
  | append_singleton steps x ih =>
    rw [after_concat]
    cases x with
    | perform o d =>
      exact ih.outcome (((start_idle policy timeoutMillis clock).after steps).step_outcome o d)
    | setClock now => exact ih.mono
    | setFaults tokenWrites commits => exact ih.mono

/-- What holds of empty tables, and after each operation of a session if it held before, holds
throughout. It may depend on the steps so far. -/
theorem session_induction {I : List Step → Tables → Prop} (hnil : I [] {})
    (hother : ∀ steps x t, x.draws = none → I steps t → I (steps ++ [x]) t)
    (hperform : ∀ steps o d t', DrawnOnce (steps ++ [.perform o d]) →
      I steps ((start policy timeoutMillis clock).after steps).tables →
      ((start policy timeoutMillis clock).after steps).tables.Fresh d →
      Outcome ((start policy timeoutMillis clock).after steps).clock d
        ((start policy timeoutMillis clock).after steps).tables o
        (((start policy timeoutMillis clock).after steps).perform o d).1 t' →
      I (steps ++ [.perform o d]) t')
    (steps : List Step) (h : DrawnOnce steps) :
    I steps ((start policy timeoutMillis clock).after steps).tables := by
  induction steps using List.reverseRecOn with
  | nil => exact hnil
  | append_singleton steps x ih =>
    have hi := ih h.init
    rw [after_concat]
    cases hx : x.draws with
    | none =>
      rw [step_tables hx]
      exact hother steps x _ hx hi
    | some d =>
      cases x with
      | perform o d =>
        have ho := ((start_idle policy timeoutMillis clock).after steps).step_outcome o d
        exact hperform steps o d _ h hi ((drawnFrom_after steps).fresh h) ho
      | setClock now => cases hx
      | setFaults tokenWrites commits => cases hx

end Service

namespace Sample

def uuid (n : UInt8) : Uuid := ⟨Vector.replicate 16 n⟩

def draws (n : UInt8) : Draws :=
  { user := ⟨uuid n⟩, group := ⟨uuid n⟩, role := ⟨uuid n⟩, invite := ⟨uuid n⟩, token := ⟨uuid n⟩
    secret := Vector.replicate 32 n, salt := Vector.replicate 16 n, serial := uuid n
    nextSerial := uuid n }

def policy : Policy := ⟨⟨"signing", 15, 7, 30⟩, ⟨"server", 60, 72⟩⟩

def clock : Instant := ⟨0, by decide⟩

def service : Service := .start policy 5000 clock

def owner : UserId := ⟨uuid 10⟩

def guest : UserId := ⟨uuid 11⟩

def stranger : UserId := ⟨uuid 12⟩

/-- The group that `steps` founds, and the invite to it. -/
def group : GroupId := ⟨uuid 1⟩

def invite : InviteId := ⟨uuid 2⟩

/-- An owner founds a group and invites two, of whom one comes. -/
def steps : List Step :=
  [.perform (.createGroup owner " readers " none) (draws 1),
    .perform (.createInvite owner group .member 2) (draws 2),
    .perform (.redeem invite guest) (draws 3)]

theorem drawnOnce : DrawnOnce steps := by
  constructor <;> decide

/-- Any password will do. -/
def openPolicy : Policy := ⟨policy.tokens, ⟨"server", 0, 72⟩⟩

/-- The user that `entry` registers. -/
def member : UserId := ⟨uuid 1⟩

def entry : Step := .perform (.register "a@b.c" ⟨""⟩) (draws 1)

end Sample

end GroupAccess
