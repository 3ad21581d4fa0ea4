import GroupAccess.Proofs.Interleaving.Advance
import GroupAccess.Proofs.Operation.Repetition
import GroupAccess.Proofs.Operation.WriteOrder
import GroupAccess.Proofs.Service.Looking

namespace GroupAccess

namespace Service

open Program

variable {α : Type} {s : Service} {k : Agent}

/-- A program and its service after a number of steps, of which each makes the next call, if it can
be made. -/
def progress (k : Agent) : Nat → Program α → Service → Program α × Service
  | 0, p, s => (p, s)
  | n + 1, p, s => progress k n (s.advance k p).1 (s.advance k p).2

/-- The service when an agent is dropped. -/
def abandon (s : Service) (k : Agent) : Service := { s with store := s.store.abandon k }

theorem abandon_stranger (h : s.store.holding k = none) : s.abandon k = s := by
  rw [abandon, Store.abandon_stranger h]

theorem settle_settle (p : Program α) (s : Service) :
    settle (settle p s).1 (settle p s).2 = settle p s := by
  induction p generalizing s with
  | done r => rfl
  | count e next ih => exact ih (s.count e)
  | call c next => rfl

theorem run_settle (k : Agent) (p : Program α) (s : Service) :
    run k (settle p s).1 (settle p s).2 = run k p s := by
  induction p generalizing s with
  | done r => rfl
  | count e next ih => exact ih (s.count e)
  | call c next => rfl

theorem advance_settle (k : Agent) (p : Program α) (s : Service) :
    (settle p s).2.advance k (settle p s).1 = s.advance k p := by
  rw [advance, settle_settle, advance]

theorem run_advance (k : Agent) (p : Program α) (s : Service) :
    run k (s.advance k p).1 (s.advance k p).2 = run k p s := by
  rw [← run_settle k p s, advance]
  split
  · rename_i c next t hs
    rw [hs]
    cases hc : t.call k c with
    | none => rfl
    | some answer => exact (run_settle ..).trans (run_call hc).symm
  · rfl

theorem run_progress (k : Agent) (n : Nat) (p : Program α) (s : Service) :
    run k (progress k n p s).1 (progress k n p s).2 = run k p s := by
  induction n generalizing p s with
  | zero => rfl
  | succ n ih => exact (ih ..).trans (run_advance ..)

/-- A program without a result is one that was dropped before a call that had to wait. -/
theorem run_eq_none {p : Program α} {left : Service} (h : run k p s = (none, left)) :
    ∃ n, result? (progress k (n + 1) p s).1 = none ∧
      left = (progress k (n + 1) p s).2.abandon k := by
  induction p generalizing s with
  | done r => cases h
  | count e next ih => exact ih (s := s.count e) h
  | call c next ih =>
    cases hc : s.call k c with
    | none =>
      have ha : s.advance k (.call c next) = (.call c next, s) := by simp only [advance, settle, hc]
      refine ⟨0, ?_, ?_⟩
      · rw [progress, ha]
        rfl
      · rw [run, hc] at h
        rw [progress, ha]
        exact (Prod.mk.inj h).2.symm
    | some answer =>
      obtain ⟨r, t⟩ := answer
      have ha : s.advance k (.call c next) = settle (next r) t := by simp only [advance, settle, hc]
      rw [run_call hc] at h
      obtain ⟨n, hn, hl⟩ := ih r h
      refine ⟨n + 1, ?_⟩
      rw [progress, ha, progress, advance_settle]
      exact ⟨hn, hl⟩

/-- An operation on its way from `s`, with the role that it may store. -/
inductive Paused (s : Service) (k : Agent) (role? : Option (Role × RoleId)) :
    Program α → Service → Prop
  /-- It has only looked. -/
  | looking {p : Program α} (h : WritesLast role? p) (c : Counters) :
      Paused s k role? p (s.leaving s.tables c)
  /-- Its role was new, and is stored. -/
  | interned {p : Program α} {role : Role} {fresh : RoleId} (hr : role? = some (role, fresh))
      (hs : s.store.held = none) (hn : s.tables.findRoleId role = none) (h : p.Closing)
      (c : Counters) : Paused s k role? p (s.leaving (s.tables.createRole role fresh).2 c)
  /-- Its transaction is open. -/
  | transacting {p : Program α} (hs : s.store.held = none) {x : Transaction} {t : Tables}
      (hx : s.tables.Noted x.undo t) (h : p.Transacting) (c : Counters) :
      Paused s k role? p ((s.hold k x t).leaving t c)
  | ended (r : Except Refusal α) (t : Service) : Paused s k role? (.done r) t

namespace Paused

variable {role? : Option (Role × RoleId)} {p : Program α} {t : Service}

theorem of_through (h : p.Through) (t : Service) : Paused s k role? p.settled t := by
  obtain ⟨r, hr⟩ := h.settled_eq
  rw [hr]
  exact .ended r t

theorem advance_looking (hp : s.plan = .none) (h : WritesLast role? p) (c : Counters) :
    Paused s k role? ((s.leaving s.tables c).advance k p).1
      ((s.leaving s.tables c).advance k p).2 := by
  have hset := h.settled
  cases hs : p.settled with
  | done r =>
    obtain ⟨c', hc', -⟩ := (s.leaving s.tables c).advance_done (a := k) hs
    rw [hc']
    exact .looking hset c'
  | count e next => exact absurd hs p.settled_ne_count
  | call call next =>
    cases hc : s.store.call k call with
    | none =>
      obtain ⟨c', hc', -⟩ := (s.leaving s.tables c).advance_waiting hp hs hc
      rw [hc']
      exact .looking hset c'
    | some answer =>
      obtain ⟨r, store⟩ := answer
      obtain ⟨c', hc', -⟩ := (s.leaving s.tables c).advance_answered hp hs hc
      rw [hc']
      rw [hs] at hset
      cases hset with
      | closing h =>
        cases h with
        | through h => exact (h.head rfl).1.elim
        | last _ h => exact of_through (h r) _
      | look hm h =>
        have hsame : store = s.store := by
          have hcall := call_of_store hp hc
          rcases s.call_looks (k := k) hm with hn | ⟨r', hr'⟩
          · cases hn.symm.trans hcall
          · exact congrArg Service.store (Prod.mk.inj (Option.some.inj (hcall.symm.trans hr'))).2
        rw [hsame]
        exact .looking (h r).settled c'
      | @intern role fresh _ hr h =>
        rw [Store.call] at hc
        obtain ⟨hfree, rfl⟩ := Store.atomic_eq_some hc
        cases hn : s.tables.findRoleId role with
        | none => exact .interned hr hfree hn (h r).settled c'
        | some id =>
          have hkept : (s.tables.createRole role fresh).2 = s.tables := by
            rw [Tables.createRole, hn]
          rw [show s.store.tables = s.tables from rfl, hkept]
          exact .looking (.closing (h r).settled) c'
      | begin he ho =>
        rw [Store.call] at hc
        split at hc
        · cases hc
        · cases hc
          rw [ho.settled_eq]
          exact .transacting (x := ⟨[], s.store.failsCommits⟩) ‹_› .begun ho c'

theorem advance_interned (hp : s.plan = .none) {role : Role} {fresh : RoleId}
    (hr : role? = some (role, fresh)) (hfree : s.store.held = none)
    (hn : s.tables.findRoleId role = none) (h : p.Closing) (c : Counters) :
    Paused s k role? ((s.leaving (s.tables.createRole role fresh).2 c).advance k p).1
      ((s.leaving (s.tables.createRole role fresh).2 c).advance k p).2 := by
  have hset := h.settled
  cases hs : p.settled with
  | done r =>
    obtain ⟨c', hc', -⟩ :=
      (s.leaving (s.tables.createRole role fresh).2 c).advance_done (a := k) hs
    rw [hc']
    exact .interned hr hfree hn hset c'
  | count e next => exact absurd hs p.settled_ne_count
  | call call next =>
    cases hc : (s.leaving (s.tables.createRole role fresh).2 c).store.call k call with
    | none =>
      obtain ⟨c', hc', -⟩ :=
        (s.leaving (s.tables.createRole role fresh).2 c).advance_waiting hp hs hc
      rw [hc']
      exact .interned hr hfree hn hset c'
    | some answer =>
      obtain ⟨r, store⟩ := answer
      obtain ⟨c', hc', -⟩ :=
        (s.leaving (s.tables.createRole role fresh).2 c).advance_answered hp hs hc
      rw [hc']
      rw [hs] at hset
      cases hset with
      | through h => exact (h.head rfl).1.elim
      | last _ h => exact of_through (h r) _

theorem advance_transacting (hp : s.plan = .none) (hfree : s.store.held = none) {x : Transaction}
    {t : Tables} (hx : s.tables.Noted x.undo t) (h : p.Transacting) (c : Counters) :
    Paused s k role? (((s.hold k x t).leaving t c).advance k p).1
      (((s.hold k x t).leaving t c).advance k p).2 := by
  have hheld : ((s.hold k x t).leaving t c).store.held = some (k, x) := rfl
  have hs := h.settled_eq
  cases h with
  | write w h =>
    obtain ⟨c', hc', -⟩ :=
      ((s.hold k x t).leaving t c).advance_answered hp hs (Store.call_write hheld w)
    rw [hc', (h _).settled_eq]
    exact .transacting hfree (hx.answered w) (h _) c'
  | commit h =>
    obtain ⟨c', hc', -⟩ :=
      ((s.hold k x t).leaving t c).advance_answered hp hs (Store.call_commit hheld)
    rw [hc']
    exact of_through (h _) _
  | rollback h =>
    obtain ⟨c', hc', -⟩ :=
      ((s.hold k x t).leaving t c).advance_answered hp hs (Store.call_rollback hheld)
    rw [hc']
    exact of_through (h _) _

theorem advance (hp : s.plan = .none) (h : Paused s k role? p t) :
    Paused s k role? (t.advance k p).1 (t.advance k p).2 := by
  cases h with
  | looking h c => exact advance_looking hp h c
  | interned hr hs hn h c => exact advance_interned hp hr hs hn h c
  | transacting hs hx h c => exact advance_transacting hp hs hx h c
  | ended r t => exact .ended r t

theorem progress (hp : s.plan = .none) (n : Nat) (h : Paused s k role? p t) :
    Paused s k role? (progress k n p t).1 (progress k n p t).2 := by
  induction n generalizing p t with
  | zero => exact h
  | succ n ih => exact ih (h.advance hp)

/-- What is left when an operation is dropped on its way. -/
theorem abandon (hk : s.store.holding k = none) (h : Paused s k role? p t)
    (hp : result? p = none) :
    ∃ c, t.abandon k = s.leaving s.tables c ∨
      ∃ role fresh, role? = some (role, fresh) ∧ s.store.held = none ∧
        s.tables.findRoleId role = none ∧ p.Closing ∧ t = t.abandon k ∧
        t.abandon k = s.leaving (s.tables.createRole role fresh).2 c := by
  cases h with
  | looking h c =>
    exact ⟨c, .inl (abandon_stranger (s := s.leaving s.tables c) hk)⟩
  | @interned _ role fresh hr hs hn h c =>
    have hleft : (s.leaving (s.tables.createRole role fresh).2 c).abandon k =
        s.leaving (s.tables.createRole role fresh).2 c :=
      abandon_stranger (Store.holding_of_free hs)
    exact ⟨c, .inr ⟨role, fresh, hr, hs, hn, h, hleft.symm, hleft⟩⟩
  | @transacting _ hs x t hx h c =>
    refine ⟨c, .inl ?_⟩
    have hheld : ((s.hold k x t).leaving t c).store.held = some (k, x) := rfl
    have hback : x.rollback t = s.tables := hx.foldl_apply
    rw [Service.abandon, Store.abandon, Store.call_rollback hheld]
    simp only [leaving, hold, hback, ← hs]
  | ended r t => cases hp

end Paused

/-- Counters do not matter to a call. -/
theorem call_recounted (s : Service) (k : Agent) (c : Call) (n : Counters) :
    (s.leaving s.tables n).call k c =
      (s.call k c).map fun (r, t) => (r, t.leaving t.tables n) := by
  unfold Service.call
  cases hp : s.plan c.method with
  | some e =>
    simp only [leaving, hp]
    rfl
  | none =>
    simp only [leaving, hp, Option.map_map]
    rfl

/-- Counters do not matter to a run. -/
theorem run_recounted (k : Agent) (p : Program α) (s : Service) (n : Counters) :
    ∃ m, run k p (s.leaving s.tables n) =
      ((run k p s).1, (run k p s).2.leaving (run k p s).2.tables m) := by
  induction p generalizing s n with
  | done r => exact ⟨n, rfl⟩
  | count e next ih => exact ih (s.count e) (n.add e)
  | call c next ih =>
    cases hc : s.call k c with
    | none => exact ⟨n, by simp only [run, call_recounted, hc, Option.map_none]; rfl⟩
    | some answer =>
      obtain ⟨r, t⟩ := answer
      obtain ⟨m, hm⟩ := ih r t n
      exact ⟨m, by simp only [run, call_recounted, hc, Option.map_some, hm]⟩

theorem perform_recounted (s : Service) (o : Operation) (d : Draws) (n : Counters) :
    ((s.leaving s.tables n).perform o d).1 = (s.perform o d).1 ∧
      ((s.leaving s.tables n).perform o d).2.tables = (s.perform o d).2.tables := by
  obtain ⟨m, hm⟩ : ∃ m, run worker (o.program (s.leaving s.tables n).policy
      (s.leaving s.tables n).clock d) (s.leaving s.tables n) = _ := run_recounted ..
  rw [perform_run, hm, perform_run]
  exact ⟨rfl, rfl⟩

namespace Idle

variable {o : Operation}

/-- The answer of an operation and the tables that it leaves. -/
theorem perform_of_run (d : Draws) {r : Except Refusal o.Result} {t : Tables}
    (hr : run worker (o.program s.policy s.clock d) s = (some r, s.put t)) :
    (s.perform o d).1 = r ∧ (s.perform o d).2.tables = t := by
  rw [perform_eq hr]
  exact ⟨rfl, rfl⟩

theorem perform_createGroup (h : s.Idle) (owner : UserId) (name : String)
    (description : Option String) (d : Draws) :
    (s.perform (.createGroup owner name description) d).1 =
        (s.tables.groupFounded s.clock owner name description d.group d.role).1 ∧
      (s.perform (.createGroup owner name description) d).2.tables =
        (s.tables.groupFounded s.clock owner name description d.group d.role).2 :=
  perform_of_run (o := .createGroup owner name description) d
    (h.run_groupFounded s.clock owner name description d.group d.role)

theorem perform_createInvite (h : s.Idle) (actor : UserId) (group : GroupId) (role : Role)
    (uses : Int) (d : Draws) :
    (s.perform (.createInvite actor group role uses) d).1 =
        (s.tables.invited actor group role uses d.invite d.role).1 ∧
      (s.perform (.createInvite actor group role uses) d).2.tables =
        (s.tables.invited actor group role uses d.invite d.role).2 :=
  perform_of_run (o := .createInvite actor group role uses) d (h.run_invited ..)

theorem perform_createRole (h : s.Idle) (role : Role) (d : Draws) :
    (s.perform (.createRole role) d).1 = .ok (s.tables.createRole role d.role).1 ∧
      (s.perform (.createRole role) d).2.tables = (s.tables.createRole role d.role).2 := by
  have hw := h.atomic fun t => (.ok (t.createRole role d.role).1, (t.createRole role d.role).2)
  exact perform_of_run (o := .createRole role) d (h.run_ask (c := .createRole role d.role) hw)

end Idle

/-- The roles do not change any more once the role is stored. -/
theorem run_closing {p : Program α} (h : p.Closing) (hi : s.Idle) :
    (run k p s).2.tables.roles = s.tables.roles := by
  have hthrough {p : Program α} (h : p.Through) (t : Service) :
      (run k p t).2.tables = t.tables := by
    induction h generalizing t with
    | done r => rfl
    | count e _ ih => exact ih (t.count e)
    | call hc => exact hc.elim
  cases h with
  | through h => rw [hthrough h s]
  | @last c next hm h =>
    cases hc : s.store.call k c with
    | none =>
      rw [run, Service.call, hi.plan]
      simp only [Plan.none, hc, Option.map_none]
      rw [Store.abandon_stranger (Store.holding_of_free hi.held)]
    | some answer =>
      obtain ⟨r, store⟩ := answer
      rw [run_call (call_of_store hi.plan hc), hthrough (h r)]
      exact Store.call_roles hm hc

/-- An operation that is tried again, with its role in the tables from the time before. -/
theorem Idle.perform_again {role : Role} {o : Operation} {d : Draws} (hi : s.Idle)
    (ho : o.interns? = some role) (hf : s.tables.roles.get? d.role = none)
    (hgain : (s.perform o d).2.tables.roles ≠ s.tables.roles) (left first : Service)
    (hleft : left.Idle) (ht : left.tables = (s.tables.createRole role d.role).2)
    (hfirst : first.Idle) (ht' : first.tables = s.tables) (hclock : left.clock = first.clock)
    (d' : Draws) :
    (left.perform o d').1 = (first.perform o { d' with role := d.role }).1 ∧
      (left.perform o d').2.tables =
        (first.perform o { d' with role := d.role }).2.tables := by
  cases o with
  | createGroup owner name description =>
    cases ho
    rw [(hi.perform_createGroup owner name description d).2] at hgain
    obtain ⟨hl, hl'⟩ := hleft.perform_createGroup owner name description d'
    obtain ⟨hr, hr'⟩ :=
      hfirst.perform_createGroup owner name description { d' with role := d.role }
    rw [hl, hl', hr, hr', ht, ht', hclock, Tables.groupFounded_again hgain]
    exact ⟨rfl, rfl⟩
  | createInvite actor group role uses =>
    cases ho
    rw [(hi.perform_createInvite actor group role uses d).2] at hgain
    obtain ⟨hl, hl'⟩ := hleft.perform_createInvite actor group role uses d'
    obtain ⟨hr, hr'⟩ :=
      hfirst.perform_createInvite actor group role uses { d' with role := d.role }
    rw [hl, hl', hr, hr', ht, ht', Tables.invited_again hf hgain]
    exact ⟨rfl, rfl⟩
  | createRole role =>
    cases ho
    obtain ⟨hl, hl'⟩ := hleft.perform_createRole role d'
    obtain ⟨hr, hr'⟩ := hfirst.perform_createRole role { d' with role := d.role }
    rw [hl, hl', hr, hr', ht, ht', Tables.createRole_again]
    exact ⟨rfl, rfl⟩
  | _ => cases ho

/-- Until an operation has come to its end it is on its way. -/
theorem paused_progress (hp : s.plan = .none) (o : Operation) (d : Draws) (n : Nat) :
    Paused s k (o.interns?.map (·, d.role)) (progress k n (o.program s.policy s.clock d) s).1
      (progress k n (o.program s.policy s.clock d) s).2 :=
  (Paused.looking (program_writesLast s.policy s.clock d o) s.counters).progress hp n

/-- What an operation leaves that was dropped when it had stored its role: the role was new, and the
operation, had it gone on, would have left it as well. -/
structure RoleLeft (s : Service) (o : Operation) (d : Draws) (role : Role) (c : Counters)
    (left : Service) : Prop where
  idle : s.Idle
  new : s.tables.findRoleId role = none
  gain : (s.perform o d).2.tables.roles ≠ s.tables.roles
  eq : left = s.leaving (s.tables.createRole role d.role).2 c

theorem left_of_dropped (hp : s.plan = .none) (hk : s.store.holding worker = none) (o : Operation)
    (d : Draws) {n : Nat}
    (hn : result? (progress worker n (o.program s.policy s.clock d) s).1 = none) :
    (∃ c, (progress worker n (o.program s.policy s.clock d) s).2.abandon worker =
      s.leaving s.tables c) ∨
      ∃ c role, o.interns? = some role ∧ s.RoleLeft o d role c
        ((progress worker n (o.program s.policy s.clock d) s).2.abandon worker) := by
  have hrun := run_progress worker n (o.program s.policy s.clock d) s
  obtain ⟨c, hleft | ⟨role, fresh, ho, hfree, hnew, hclosing, heq, hleft⟩⟩ :=
    (paused_progress hp o d n).abandon hk hn
  · exact .inl ⟨c, hleft⟩
  · obtain ⟨_, hrole, he⟩ := Option.map_eq_some_iff.1 ho
    cases he
    refine .inr ⟨c, role, hrole, ⟨hp, hfree⟩, hnew, ?_, hleft⟩
    rw [heq, hleft] at hrun
    have hi : (s.leaving (s.tables.createRole role d.role).2 c).Idle := ⟨hp, hfree⟩
    have hroles := run_closing (k := worker) hclosing hi
    rw [hrun] at hroles
    rw [perform_run]
    exact fun he => Tables.createRole_gains hnew (hroles.symm.trans he)

theorem timedOut_leaving (s : Service) (t : Tables) (c : Counters) (name : String) :
    (s.leaving t c).timedOut name = s.timedOut name := rfl

/-- An operation without a result was dropped before its end. -/
theorem perform_given_up (hp : s.plan = .none) (hk : s.store.holding worker = none)
    (o : Operation) (d : Draws)
    (hn : (run worker (o.program s.policy s.clock d) s).1 = none) :
    (s.perform o d).1 = .error (s.timedOut o.name) ∧
      ∃ n, result? (progress worker n (o.program s.policy s.clock d) s).1 = none ∧
        (s.perform o d).2 = ((progress worker n (o.program s.policy s.clock d) s).2.abandon
          worker).count (.operation o.name) := by
  generalize hleft : (run worker (o.program s.policy s.clock d) s).2 = left at *
  have hrun : run worker (o.program s.policy s.clock d) s = (none, left) := Prod.ext hn hleft
  obtain ⟨n, hres, heq⟩ := run_eq_none hrun
  have htime : left.timedOut o.name = s.timedOut o.name := by
    rw [heq]
    rcases left_of_dropped hp hk o d hres with ⟨c, hc⟩ | ⟨c, role, -, hc⟩
    · rw [hc, timedOut_leaving]
    · rw [hc.eq, timedOut_leaving]
  rw [perform_run, hrun]
  exact ⟨congrArg Except.error htime, n + 1, hres, by rw [heq]⟩

/-- When an operation is dropped before its end, the tables are as they were, but that the role it
asks for may be stored, once and as a new one. What is asked for after that is answered as if it had
not been tried, whatever the time and the counters are, up to the identifier of that role. An
operation that is given up at its deadline was dropped in this way. -/
theorem dropping_harmless (s : Service) (hp : s.plan = .none)
    (hk : s.store.holding worker = none) (o : Operation) (d : Draws)
    (hf : s.tables.roles.get? d.role = none) :
    (∀ n, n = 0 ∨ result? (progress worker n (o.program s.policy s.clock d) s).1 = none →
      let left := (progress worker n (o.program s.policy s.clock d) s).2.abandon worker
      left = s.leaving left.tables left.counters ∧
        left.tables.users = s.tables.users ∧ left.tables.tokens = s.tables.tokens ∧
        left.tables.groups = s.tables.groups ∧
        left.tables.memberships = s.tables.memberships ∧
        left.tables.invites = s.tables.invites ∧
        (left.tables.roles = s.tables.roles ∨ ∃ role, o.interns? = some role ∧
          (∀ id, s.tables.roles.get? id ≠ some role) ∧
          left.tables.roles.entries = (d.role, role) :: s.tables.roles.entries) ∧
        ∀ (now : Instant) (c : Counters) (d' : Draws), ∃ fresh ∈ [d'.role, d.role],
          let again := ({ left with clock := now, counters := c } : Service).perform o d'
          let first := ({ s with clock := now } : Service).perform o { d' with role := fresh }
          again.1 = first.1 ∧ again.2.tables = first.2.tables) ∧
      ((run worker (o.program s.policy s.clock d) s).1 = none →
        (s.perform o d).1 = .error (s.timedOut o.name) ∧
          ∃ n, result? (progress worker n (o.program s.policy s.clock d) s).1 = none ∧
            (s.perform o d).2 = ((progress worker n (o.program s.policy s.clock d) s).2.abandon
              worker).count (.operation o.name)) := by
  refine ⟨fun n hn => ?_, perform_given_up hp hk o d⟩
  intro left
  have hleft : (∃ c, left = s.leaving s.tables c) ∨
      ∃ c role, o.interns? = some role ∧ s.RoleLeft o d role c left := by
    rcases hn with rfl | hn
    · exact .inl ⟨s.counters, abandon_stranger hk⟩
    · exact left_of_dropped hp hk o d hn
  clear_value left
  rcases hleft with ⟨c, rfl⟩ | ⟨c, role, ho, hi, hnew, hgain, rfl⟩
  · exact ⟨rfl, rfl, rfl, rfl, rfl, rfl, .inl rfl, fun now c' d' => ⟨d'.role,
      List.mem_cons_self .., perform_recounted { s with clock := now } o d' c'⟩⟩
  · refine ⟨rfl, Tables.createRole_users .., Tables.createRole_tokens ..,
      Tables.createRole_groups .., Tables.createRole_memberships .., Tables.createRole_invites ..,
      .inr ⟨role, ho, Tables.findRoleId_eq_none hnew, ?_⟩, fun now c' d' =>
      ⟨d.role, List.mem_cons_of_mem _ (List.mem_cons_self ..), ?_⟩⟩
    · rw [leaving_tables, Tables.createRole, hnew, Table.insert_entries hf]
    · exact hi.perform_again ho hf hgain
        { s.leaving (s.tables.createRole role d.role).2 c with clock := now, counters := c' }
        { s with clock := now } ⟨hi.plan, hi.held⟩ rfl ⟨hi.plan, hi.held⟩ rfl rfl d'

end Service

namespace Sample

open Service

/-- An owner has founded a group. -/
def founded : Service := service.after [.perform (.createGroup owner " readers " none) (draws 1)]

/-- The owner's invite before the last of its calls. -/
def inviting : Program Invite × Service :=
  progress worker 4 ((Operation.createInvite owner group .member 2).program founded.policy
    founded.clock (draws 2)) founded

end Sample

open Sample in
/-- An invite that is dropped when its role is stored. -/
theorem Service.dropping_harmless_sample :
    founded.plan = .none ∧ founded.store.holding worker = none ∧
      founded.tables.roles.get? (draws 2).role = none ∧ result? inviting.1 = none ∧
      (inviting.2.abandon worker).tables.invites = founded.tables.invites ∧
      (inviting.2.abandon worker).tables.roles.size = founded.tables.roles.size + 1 := by
  have hi : founded.Idle := (start_idle Sample.policy 5000 Sample.clock).after _
  have hk : founded.store.holding worker = none := Store.holding_of_free hi.held
  have hf : founded.tables.roles.get? (draws 2).role = none := by decide +kernel
  have hn : result? inviting.1 = none := Option.isNone_iff_eq_none.1 (by decide +kernel)
  have hleft := (dropping_harmless founded hi.plan hk (.createInvite owner group .member 2)
    (draws 2) hf).1 4 (.inr hn)
  exact ⟨hi.plan, hk, hf, hn, hleft.2.2.2.2.2.1, by decide +kernel⟩

end GroupAccess
