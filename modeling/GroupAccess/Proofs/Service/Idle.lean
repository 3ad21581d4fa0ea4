import GroupAccess.Core.Service
import GroupAccess.Proofs.Operation.Footprint

namespace GroupAccess

namespace Store

variable {α : Type} {s : Store} {k : Agent} {c : Call}

theorem atomic_free (hh : s.held = none) (f : Tables → Except StoreFailure α × Tables) :
    s.atomic f = some ((f s.tables).1, { s with tables := (f s.tables).2 }) := by
  simp only [atomic, hh]

theorem read_free (hh : s.held = none) (f : Tables → α) :
    s.read f = some (.ok (f s.tables), s) :=
  atomic_free hh _

theorem write_ok (hh : s.held = none) {f : Tables → Except StoreFailure Tables} {t : Tables}
    (hf : f s.tables = .ok t) : s.write f = some (.ok (), { s with tables := t }) := by
  rw [write, atomic_free hh, hf]

theorem write_error (hh : s.held = none) {f : Tables → Except StoreFailure Tables}
    {e : StoreFailure} (hf : f s.tables = .error e) : s.write f = some (.error e, s) := by
  rw [write, atomic_free hh, hf]

/-- A call that only looks is answered while nobody holds the tables. -/
theorem call_reads (hh : s.held = none) (hc : c.method.reads = true) :
    ∃ a, s.call k c = some (.ok a, s) := by
  obtain ⟨t, held, tokens, commits⟩ := s
  cases hh
  cases c <;> first | exact ⟨_, rfl⟩ | cases hc

/-- A call that looks at the tables waits while they are held. -/
theorem call_held (hh : s.held.isSome = true) (hc : c.method.reads = true)
    (hn : c.method ≠ .health) : s.call k c = none := by
  obtain ⟨held, hh⟩ := Option.isSome_iff_exists.1 hh
  obtain ⟨t, held', tokens, commits⟩ := s
  cases hh
  cases c <;> first | rfl | exact absurd rfl hn | cases hc

end Store

namespace Service

variable {α β : Type} {s : Service} {k : Agent}

abbrev tables (s : Service) : Tables := s.store.tables

/-- The service with other tables. -/
def put (s : Service) (t : Tables) : Service := { s with store := { s.store with tables := t } }

/-- The service with other tables and counters. -/
def leaving (s : Service) (t : Tables) (c : Counters) : Service :=
  { s with store := { s.store with tables := t }, counters := c }

@[simp] theorem leaving_tables (s : Service) (t : Tables) (c : Counters) :
    (s.leaving t c).tables = t := rfl

/-- No transaction is open and no call is made to fail. -/
structure Idle (s : Service) : Prop where
  plan : s.plan = .none
  held : s.store.held = none

theorem Idle.put (h : s.Idle) (t : Tables) : (s.put t).Idle := ⟨h.plan, h.held⟩

theorem Idle.leaving (h : s.Idle) (t : Tables) (c : Counters) : (s.leaving t c).Idle :=
  ⟨h.plan, h.held⟩

theorem Idle.count (h : s.Idle) (e : Event) : (s.count e).Idle := ⟨h.plan, h.held⟩

/-- The service with a transaction of `k` open and the tables that it has come to. -/
def hold (s : Service) (k : Agent) (x : Transaction) (t : Tables) : Service :=
  { s with store := { s.store with tables := t, held := some (k, x) } }

/-- A transaction that ends leaves an idle service with other tables. -/
theorem Idle.release (h : s.Idle) (t : Tables) :
    { s with store := { s.store with tables := t, held := none } } = s.put t := by
  rw [Service.put, ← h.held]

/-- An operation in terms of its program. -/
theorem perform_run (s : Service) (o : Operation) (d : Draws) :
    s.perform o d = ((run worker (o.program s.policy s.clock d) s).1.getD
        (.error ((run worker (o.program s.policy s.clock d) s).2.timedOut o.name)),
      (run worker (o.program s.policy s.clock d) s).2.count (.operation o.name)) :=
  rfl

theorem run_call {c : Call} {next : Except StoreFailure c.Result → Program α}
    {r : Except StoreFailure c.Result} {s' : Service} (hc : s.call k c = some (r, s')) :
    run k (.call c next) s = run k (next r) s' := by
  rw [run, hc]

theorem run_bind_ok {p : Program α} {f : α → Program β} {a : α} {s' : Service}
    (hp : run k p s = (some (.ok a), s')) : run k (p.bind f) s = run k (f a) s' := by
  induction p generalizing s with
  | done r => cases hp; rfl
  | count e next ih => exact ih hp
  | call c next ih =>
    simp only [run, Program.bind] at hp ⊢
    cases hc : s.call k c with
    | none => rw [hc] at hp; cases hp
    | some answer => rw [hc] at hp; exact ih _ hp

theorem run_bind_error {p : Program α} {f : α → Program β} {e : Refusal} {s' : Service}
    (hp : run k p s = (some (.error e), s')) :
    run k (p.bind f) s = (some (.error e), s') := by
  induction p generalizing s with
  | done r => cases hp; rfl
  | count e next ih => exact ih hp
  | call c next ih =>
    simp only [run, Program.bind] at hp ⊢
    cases hc : s.call k c with
    | none => rw [hc] at hp; cases hp
    | some answer => rw [hc] at hp; exact ih _ hp

theorem run_catching_ok {p : Program α} {f : Refusal → Program α} {a : α} {s' : Service}
    (hp : run k p s = (some (.ok a), s')) : run k (p.catching f) s = (some (.ok a), s') := by
  induction p generalizing s with
  | done r => cases hp; rfl
  | count e next ih => exact ih hp
  | call c next ih =>
    simp only [run, Program.catching] at hp ⊢
    cases hc : s.call k c with
    | none => rw [hc] at hp; cases hp
    | some answer => rw [hc] at hp; exact ih _ hp

theorem run_catching_error {p : Program α} {f : Refusal → Program α} {e : Refusal} {s' : Service}
    (hp : run k p s = (some (.error e), s')) :
    run k (p.catching f) s = run k (f e) s' := by
  induction p generalizing s with
  | done r => cases hp; rfl
  | count e next ih => exact ih hp
  | call c next ih =>
    simp only [run, Program.catching] at hp ⊢
    cases hc : s.call k c with
    | none => rw [hc] at hp; cases hp
    | some answer => rw [hc] at hp; exact ih _ hp

theorem Idle.atomic (h : s.Idle) (f : Tables → Except StoreFailure α × Tables) :
    s.store.atomic f = some ((f s.tables).1, { s.store with tables := (f s.tables).2 }) :=
  Store.atomic_free h.held f

theorem Idle.read (h : s.Idle) (f : Tables → α) :
    s.store.read f = some (.ok (f s.tables), s.store) :=
  Store.read_free h.held f

theorem Idle.write_ok (h : s.Idle) {f : Tables → Except StoreFailure Tables} {t : Tables}
    (hf : f s.tables = .ok t) : s.store.write f = some (.ok (), { s.store with tables := t }) :=
  Store.write_ok h.held hf

theorem Idle.write_error (h : s.Idle) {f : Tables → Except StoreFailure Tables} {e : StoreFailure}
    (hf : f s.tables = .error e) : s.store.write f = some (.error e, s.store) :=
  Store.write_error h.held hf

/-- Without planned failures a call is the store's. -/
theorem call_of_store (hp : s.plan = .none) {c : Call} {r : Except StoreFailure c.Result}
    {store : Store} (hc : s.store.call k c = some (r, store)) :
    s.call k c = some (r, { s with store }) := by
  rw [Service.call, hp]
  simp only [Plan.none, hc, Option.map_some]

/-- The same within a transaction of `k`. -/
theorem Idle.hold_call (h : s.Idle) {x : Transaction} {t : Tables} {c : Call}
    {r : Except StoreFailure c.Result} {store : Store}
    (hc : (s.hold k x t).store.call k c = some (r, store)) :
    (s.hold k x t).call k c = some (r, { s with store }) :=
  call_of_store (s := s.hold k x t) h.plan hc

theorem Idle.run_ask (h : s.Idle) {c : Call} {g : StoreFailure → Refusal} {a : c.Result}
    {store : Store} (hc : s.store.call k c = some (.ok a, store)) :
    run k (Program.ask c g) s = (some (.ok a), { s with store }) := by
  rw [Program.ask, run, call_of_store h.plan hc]
  rfl

theorem Idle.run_ask_error (h : s.Idle) {c : Call} {g : StoreFailure → Refusal} {e : StoreFailure}
    {store : Store} (hc : s.store.call k c = some (.error e, store)) :
    run k (Program.ask c g) s = (some (.error (g e)), { s with store }) := by
  rw [Program.ask, run, call_of_store h.plan hc]
  rfl

theorem Idle.call_reads (h : s.Idle) {c : Call} (hc : c.method.reads = true) :
    ∃ r, s.call k c = some (.ok r, s) := by
  obtain ⟨a, ha⟩ := s.store.call_reads (k := k) h.held hc
  exact ⟨a, call_of_store h.plan ha⟩

/-- A program that only looks comes to its end and leaves all but the counters as it was. -/
theorem Idle.run_reads (h : s.Idle) {p : Program α}
    (hp : Program.Calls (fun c => c.method.reads = true) p) :
    ∃ r c, run k p s = (some r, s.leaving s.tables c) := by
  induction hp generalizing s with
  | done r => exact ⟨r, s.counters, rfl⟩
  | count e _ ih =>
    obtain ⟨r, c, hr⟩ := ih (h.count e)
    exact ⟨r, c, hr⟩
  | call hc _ ih =>
    obtain ⟨a, ha⟩ := h.call_reads (k := k) hc
    obtain ⟨r, c, hr⟩ := ih (.ok a) h
    exact ⟨r, c, by simp only [run, ha, hr]⟩

end Service

end GroupAccess
