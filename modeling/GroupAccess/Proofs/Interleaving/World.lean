import GroupAccess.Core.Concurrent
import GroupAccess.Proofs.Session.Basic

namespace GroupAccess

/-- The method of the call that `advance` makes, if it is answered, and whether it succeeds. -/
def Service.answer? {α : Type} (agent : Agent) (p : Program α) (s : Service) :
    Option (Method × Bool) :=
  match settle p s with
  | (.call c _, s) => (s.call agent c).map fun (r, _) => (c.method, r.isOk)
  | _ => none

structure Task where
  operation : Operation
  draws : Draws
  /-- What is still to do; nothing when the task was dropped. -/
  rest : Option (Program operation.Result)
  /-- The calls that were answered, the last one first, and whether each succeeded. -/
  calls : List (Method × Bool) := []

namespace Task

/-- Makes the next call, if it can be made. -/
def move (a : Agent) (t : Task) (s : Service) : Task × Service :=
  match t.rest with
  | some p =>
    let (p', s') := s.advance a p
    ({ t with rest := some p', calls := (s.answer? a p).toList ++ t.calls }, s')
  | none => (t, s)

/-- A task that is at its end has nothing left to drop. -/
def drop (a : Agent) (t : Task) (s : Service) : Task × Service :=
  match t.rest with
  | none | some (.done _) => (t, s)
  | some _ => ({ t with rest := none }, { s with store := s.store.abandon a })

/-- The invite that the task may make. -/
def invite? (t : Task) : Option InviteId :=
  match t.operation with
  | .createInvite _ _ _ _ => some t.draws.invite
  | _ => none

/-- The invite that the task has made, with the uses it gave it. -/
def made? (t : Task) : Option (InviteId × Int) :=
  match t.operation with
  | .createInvite _ _ _ uses =>
    if t.calls.contains (.createInvite, true) then some (t.draws.invite, uses) else none
  | _ => none

def redeems (t : Task) (id : InviteId) : Bool :=
  match t.operation with
  | .redeem invite _ => invite = id
  | _ => false

def committed (t : Task) : Bool := t.calls.contains (.commit, true)

def admits (t : Task) (id : InviteId) : Bool := t.redeems id && t.committed

/-- Whether the task has come to its end without a refusal. -/
def succeeded (t : Task) : Bool :=
  match t.rest with
  | some (.done (.ok _)) => true
  | _ => false

def refusal? (t : Task) : Option Refusal :=
  match t.rest with
  | some (.done (.error e)) => some e
  | _ => none

end Task

/-- Operations carried out at the same time over one service. Each is a task of its own; the tasks
make their calls in any order, and a task can be dropped before each of its calls. -/
structure World where
  service : Service
  /-- All tasks that were started. The place of a task is its agent. -/
  tasks : List Task := []

inductive Action
  | start (o : Operation) (d : Draws)
  | move (a : Agent)
  | drop (a : Agent)
  | setClock (now : Instant)
  /-- Makes writes of tokens and commits fail, or not. -/
  | setFaults (tokenWrites commits : Bool)

/-- The invite that the started task may make. -/
def Action.invite? : Action → Option InviteId
  | start (.createInvite _ _ _ _) d => some d.invite
  | _ => none

/-- The operation that is started, if one is, with its fresh values. -/
def Action.started : Action → Option (Operation × Draws)
  | start o d => some (o, d)
  | _ => none

/-- Whether the action is a step of the agent's task. -/
def Action.moves (a : Agent) : Action → Bool
  | move b => b = a
  | _ => false

theorem Action.eq_of_moves {a : Agent} {x : Action} (h : x.moves a = true) : x = .move a := by
  cases x with
  | move b => rw [of_decide_eq_true h]
  | _ => cases h

namespace World

/-- No tasks, and empty tables. -/
def start (policy : Policy) (timeoutMillis : Nat) (clock : Instant) : World :=
  { service := .start policy timeoutMillis clock }

def replace (w : World) (a : Agent) (t : Task) (s : Service) : World :=
  { service := s, tasks := w.tasks.set a t }

/-- One step of the task of an agent, if there is such a task. -/
def act (w : World) (a : Agent) (f : Task → Service → Task × Service) : World :=
  match w.tasks[a]? with
  | some t => w.replace a (f t w.service).1 (f t w.service).2
  | none => w

/-- A task goes by the clock as it stands at its start, in all that it does. If it looked at the clock
again between its calls it would see later instants; here those count for the tasks that are started
later. -/
def step (w : World) : Action → World
  | .start o d =>
    let p := o.program w.service.policy w.service.clock d
    { w with tasks := w.tasks ++ [{ operation := o, draws := d, rest := some p }] }
  | .move a => w.act a (Task.move a)
  | .drop a => w.act a (Task.drop a)
  | .setClock now => { w with service := { w.service with clock := now } }
  | .setFaults tokenWrites commits =>
    { w with service := { w.service with store := { w.service.store with
        failsTokenWrites := tokenWrites, failsCommits := commits } } }

/-- The world after some actions. -/
def after (w : World) (actions : List Action) : World := actions.foldl step w

/-- Redemptions of an invite that were committed. -/
def admissions (w : World) (id : InviteId) : Nat :=
  w.tasks.countP fun t => t.admits id

/-- An invite was made for a number of uses. -/
def Made (w : World) (id : InviteId) (uses : Int) : Prop :=
  ∃ t ∈ w.tasks, t.made? = some (id, uses)

/-- The next step of an agent opens a transaction. -/
def Opens (w : World) (a : Agent) : Prop :=
  w.service.store.held = none ∧ (w.step (.move a)).service.store.held ≠ none

theorem act_of_some {w : World} {a : Agent} {t : Task} (ht : w.tasks[a]? = some t)
    (f : Task → Service → Task × Service) :
    w.act a f = w.replace a (f t w.service).1 (f t w.service).2 := by
  rw [act, ht]

/-- What holds if there is no such task, and if there is one, holds after its step. -/
theorem act_cases {P : World → Prop} {w : World} {a : Agent} {f : Task → Service → Task × Service}
    (hn : P w) (hs : ∀ t, w.tasks[a]? = some t →
      P (w.replace a (f t w.service).1 (f t w.service).2)) : P (w.act a f) := by
  unfold act
  split
  · exact hs _ ‹_›
  · exact hn

theorem after_append (w : World) (actions more : List Action) :
    w.after (actions ++ more) = (w.after actions).after more :=
  List.foldl_append

theorem after_concat (w : World) (actions : List Action) (x : Action) :
    w.after (actions ++ [x]) = (w.after actions).step x :=
  w.after_append actions [x]

end World

namespace Task

section

variable {o : Operation} {d : Draws} {rest rest' : Option (Program o.Result)}
  {calls : List (Method × Bool)} {answer : Method × Bool}

theorem admits_answer (h : answer ≠ (.commit, true)) (id : InviteId) :
    admits ⟨o, d, rest', answer :: calls⟩ id = admits ⟨o, d, rest, calls⟩ id := by
  have hc : (Method.commit, true) ≠ answer := h.symm
  simp [admits, redeems, committed, hc]

theorem made_answer (h : answer ≠ (.createInvite, true)) :
    made? ⟨o, d, rest', answer :: calls⟩ = made? ⟨o, d, rest, calls⟩ := by
  have hc : (Method.createInvite, true) ≠ answer := h.symm
  simp [made?, hc]

end

theorem invite_of_made {t : Task} {id : InviteId} {uses : Int} (h : t.made? = some (id, uses)) :
    t.invite? = some id := by
  obtain ⟨o, d, rest, calls⟩ := t
  cases o with
  | createInvite actor group role n =>
    simp only [made?] at h
    split at h
    · cases h
      rfl
    · cases h
  | _ => cases h

/-- What a task was started with. -/
def started (t : Task) : Operation × Draws := (t.operation, t.draws)

theorem move_started (a : Agent) (t : Task) (s : Service) : (t.move a s).1.started = t.started := by
  unfold move
  split <;> rfl

theorem drop_started (a : Agent) (t : Task) (s : Service) : (t.drop a s).1.started = t.started := by
  unfold drop
  split <;> rfl

end Task

namespace World

/-- A list in which an element is replaced by one that gives the same. -/
theorem filterMap_set {α β : Type} {f : α → Option β} {l : List α} {n : Nat} {x y : α}
    (hx : l[n]? = some x) (hf : f y = f x) : (l.set n y).filterMap f = l.filterMap f := by
  induction l generalizing n with
  | nil => rfl
  | cons z l ih =>
    cases n with
    | zero =>
      cases hx
      simp only [List.set_cons_zero, List.filterMap_cons, hf]
    | succ n => simp only [List.set_cons_succ, List.filterMap_cons, ih hx]

/-- The tasks are those that were started, each with what it was started with. -/
theorem step_started (w : World) (x : Action) :
    (w.step x).tasks.map Task.started = w.tasks.map Task.started ++ x.started.toList := by
  have hact (a : Agent) (f : Task → Service → Task × Service)
      (hf : ∀ t s, (f t s).1.started = t.started) :
      (w.act a f).tasks.map Task.started = w.tasks.map Task.started := by
    refine act_cases (P := fun v => v.tasks.map _ = _) rfl fun t ht => ?_
    rw [← List.filterMap_eq_map]
    exact filterMap_set ht (congrArg some (hf t w.service))
  cases x with
  | start o d => exact List.map_append
  | move a => exact (hact a _ (Task.move_started a)).trans (List.append_nil _).symm
  | drop a => exact (hact a _ (Task.drop_started a)).trans (List.append_nil _).symm
  | setClock now => exact (List.append_nil _).symm
  | setFaults tokenWrites commits => exact (List.append_nil _).symm

theorem after_started (w : World) (actions : List Action) :
    (w.after actions).tasks.map Task.started =
      w.tasks.map Task.started ++ actions.filterMap Action.started := by
  induction actions using List.reverseRecOn with
  | nil => exact (List.append_nil _).symm
  | append_singleton actions x ih =>
    rw [after_concat, step_started, ih, List.append_assoc, List.filterMap_append]
    cases x <;> rfl

theorem after_invites (w : World) (actions : List Action) :
    (w.after actions).tasks.filterMap Task.invite? =
      w.tasks.filterMap Task.invite? ++ actions.filterMap Action.invite? := by
  let invite? (x : Operation × Draws) : Option InviteId := (Action.start x.1 x.2).invite?
  have htasks (ts : List Task) :
      ts.filterMap Task.invite? = (ts.map Task.started).filterMap invite? := by
    rw [List.filterMap_map]
    congr 1
    funext ⟨o, d, rest, calls⟩
    cases o <;> rfl
  have hactions : actions.filterMap Action.invite? =
      (actions.filterMap Action.started).filterMap invite? := by
    rw [List.filterMap_filterMap]
    congr 1
    funext x
    cases x <;> rfl
  rw [htasks, htasks, hactions, after_started, List.filterMap_append]

end World

namespace Sample

/-- An owner founds a group and invites one. A stranger takes the use, but is dropped; meanwhile a
guest waits. -/
def prelude : List Action :=
  [.start (.createGroup owner " readers " none) (draws 1), .move 0, .move 0,
    .start (.createInvite owner group .member 1) (draws 2), .move 1, .move 1, .move 1, .move 1,
    .move 1, .start (.redeem invite stranger) (draws 3), .start (.redeem invite guest) (draws 4),
    .move 2, .move 2, .move 3, .drop 2]

/-- The guest goes on while the stranger tries again, and waits. -/
def sequel : List Action :=
  [.start (.redeem invite stranger) (draws 5), .move 3, .move 4, .move 3, .setFaults false true,
    .move 3, .move 4, .move 4, .move 4]

def course : List Action := prelude ++ .move 3 :: sequel

def world : World := .start policy 5000 clock

end Sample

end GroupAccess
