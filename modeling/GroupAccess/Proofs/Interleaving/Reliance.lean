import GroupAccess.Proofs.Interleaving.Advance
import GroupAccess.Proofs.Program.Reliance

namespace GroupAccess

namespace World

variable {R : Reliance} {t u : Tables} {w v : World}

/-- What is left of each task has what it needs. -/
def Relies (w : World) (R : Reliance) (t : Tables) : Prop :=
  ∀ x ∈ w.tasks, ∀ p, x.rest = some p → R.Holds t p

/-- What an action does to the tables: nothing, or a call is answered that has what it needs. -/
inductive Calls (R : Reliance) (w v : World) : Prop
  | none (ht : v.service.tables = w.service.tables) (h : v.Relies R w.service.tables)
  | answered {a : Agent} {c : Call} {r : Except StoreFailure c.Result}
      (hn : R.Needs w.service.tables c)
      (hc : w.service.store.call a c = some (r, v.service.store))
      (h : ∀ u, R.Keeps w.service.tables u → R.Shows u c r → v.Relies R u)

theorem Relies.mono (h : w.Relies R t) (hu : R.Keeps t u) : w.Relies R u :=
  fun x hx p hp => (h x hx p hp).mono hu

theorem Relies.replace (h : w.Relies R t) (a : Agent) {x : Task} (s : Service)
    (hx : ∀ p, x.rest = some p → R.Holds t p) : (w.replace a x s).Relies R t := by
  intro y hy
  rcases List.mem_or_eq_of_mem_set hy with hold | rfl
  · exact h y hold
  · exact hx

/-- A task that was dropped needs nothing. -/
theorem Relies.replace_dropped (h : w.Relies R t) (a : Agent) {x : Task} (s : Service)
    (hx : x.rest = none) : (w.replace a x s).Relies R t := by
  refine h.replace a s fun p hp => ?_
  rw [hx] at hp
  cases hp

theorem Relies.move (hp : w.service.plan = .none) (h : w.Relies R w.service.tables) (a : Agent) :
    w.Calls R (w.step (.move a)) := by
  refine act_cases (P := w.Calls R) (.none rfl h) fun x hx => ?_
  have hmem := List.mem_of_getElem? hx
  obtain ⟨o, d, rest, calls⟩ := x
  cases rest with
  | none => exact .none rfl (h.replace_dropped a _ rfl)
  | some p =>
    have hholds := h _ hmem p rfl
    obtain ⟨k, hk | ⟨c, next, r, store, hs, hc, hk⟩⟩ := Task.move_cases d calls hp a p
    · rw [hk]
      refine .none rfl (h.replace a _ ?_)
      rintro _ ⟨⟩
      exact hholds.settled
    · obtain ⟨hneeds, hnext⟩ := hholds.head hs
      rw [hk]
      refine .answered hneeds hc fun u hu hr => (h.mono hu).replace a _ ?_
      rintro _ ⟨⟩
      exact (hnext r u hu hr).settled

theorem Relies.drop (h : w.Relies R w.service.tables) (a : Agent) :
    w.Calls R (w.step (.drop a)) := by
  refine act_cases (P := w.Calls R) (.none rfl h) fun x hx => ?_
  have hsame : w.Calls R (w.replace a x w.service) :=
    .none rfl (h.replace a _ (h x (List.mem_of_getElem? hx)))
  unfold Task.drop
  split
  · exact hsame
  · exact hsame
  · dsimp only
    cases hc : w.service.store.call a .rollback with
    | none =>
      refine .none ?_ (h.replace_dropped a _ rfl)
      simp only [World.replace, Service.tables, Store.abandon, hc]
    | some answer =>
      obtain ⟨r, store⟩ := answer
      refine .answered (a := a) (c := .rollback) (r := r) (R.rollback _) ?_
        fun u hu _ => (h.mono hu).replace_dropped a _ rfl
      simp only [World.replace, Store.abandon, hc]

/-- Every task has what it needs when an action starts, and so it has when the call is answered. -/
theorem Relies.step (hp : w.service.plan = .none) (h : w.Relies R w.service.tables)
    (hstart : ∀ (o : Operation) d,
      R.Holds w.service.tables (o.program w.service.policy w.service.clock d))
    (x : Action) : w.Calls R (w.step x) := by
  cases x with
  | start o d =>
    refine .none rfl fun x hx => ?_
    rcases List.mem_append.1 hx with hold | hnew
    · exact h x hold
    · cases List.mem_singleton.1 hnew
      rintro _ ⟨⟩
      exact hstart o d
  | move a => exact h.move hp a
  | drop a => exact h.drop a
  | setClock now => exact .none rfl h
  | setFaults tokenWrites commits => exact .none rfl h

end World

/-- What programs that rely on `R` keep of the tables: every operation has what it needs for its
calls, and a call that has it leaves the tables so, with all that was known of them. -/
structure Reliance.Preserves (R : Reliance) (P : Tables → Prop) : Prop where
  program : ∀ policy now d (o : Operation) t, R.Holds t (o.program policy now d)
  call : ∀ {s s' : Store} {a : Agent} {c : Call} {r : Except StoreFailure c.Result},
    P s.tables → R.Needs s.tables c → s.call a c = some (r, s') →
      P s'.tables ∧ R.Keeps s.tables s'.tables ∧ R.Shows s'.tables c r

namespace Reliance.Preserves

variable {R : Reliance} {P : Tables → Prop} {s : Service}

theorem of_calls {ok : Call → Prop} (hrollback : ok .rollback)
    (hprogram : ∀ policy now d (o : Operation), Program.Calls ok (o.program policy now d))
    (hcall : ∀ {s s' : Store} {a : Agent} {c : Call} {r : Except StoreFailure c.Result},
      P s.tables → ok c → s.call a c = some (r, s') → P s'.tables) :
    (Reliance.onCalls hrollback).Preserves P :=
  ⟨fun _ _ _ _ _ _ _ => .of_calls (hprogram ..),
    fun hs hc he => ⟨hcall hs hc he, trivial, trivial⟩⟩

theorem abandon (h : R.Preserves P) {s : Store} (hs : P s.tables) (a : Agent) :
    P (s.abandon a).tables := by
  unfold Store.abandon
  split
  · exact (h.call hs (R.rollback _) ‹_›).1
  · exact hs

/-- A program that is carried out, or given up. -/
theorem run (h : R.Preserves P) {α : Type} {p : Program α} {k : Agent} (hplan : s.plan = .none)
    (hp : R.Holds s.tables p) (hs : P s.tables) : P (Service.run k p s).2.tables := by
  induction p generalizing s with
  | done r => exact hs
  | count e next ih => exact ih (s := s.count e) hplan (fun u hu => (hp u hu).counted) hs
  | call c next ih =>
    obtain ⟨hc, hnext⟩ := hp.head rfl
    have hcall := Service.call_counters (a := k) (c := c) hplan s.counters
    cases hanswer : s.store.call k c with
    | none =>
      rw [hanswer] at hcall
      rw [Service.run, hcall]
      exact h.abandon hs k
    | some answer =>
      obtain ⟨r, store⟩ := answer
      obtain ⟨hs', hkeeps, hshows⟩ := h.call hs hc hanswer
      rw [hanswer] at hcall
      rw [Service.run_call hcall]
      exact ih r hplan (hnext r store.tables hkeeps hshows) hs'

theorem session (h : R.Preserves P) (hi : s.Idle) (hs : P s.tables) (steps : List Step) :
    P (s.after steps).tables := by
  induction steps generalizing s with
  | nil => exact hs
  | cons x steps ih =>
    apply ih (hi.step x)
    cases x with
    | perform o d =>
      exact h.run (k := Service.worker) hi.plan (h.program s.policy s.clock d o s.tables) hs
    | setClock now => exact hs
    | setFaults tokenWrites commits => exact hs

theorem world (h : R.Preserves P) {w : World} (hplan : w.service.plan = .none)
    (hw : w.Relies R w.service.tables) (hs : P w.service.tables) (actions : List Action) :
    P (w.after actions).service.tables := by
  induction actions generalizing w with
  | nil => exact hs
  | cons x actions ih =>
    have hplan' := World.step_plan hplan x
    cases hw.step hplan (fun o d => h.program _ _ d o _) x with
    | none ht hr => exact ih hplan' (ht ▸ hr) (ht ▸ hs)
    | answered hn hc hr =>
      obtain ⟨hs', hkeeps, hshows⟩ := h.call hs hn hc
      exact ih hplan' (hr _ hkeeps hshows) hs'

end Reliance.Preserves

namespace Service

variable {policy : Policy} {timeoutMillis : Nat} {clock : Instant} {s : Service}

/-- The services that operations lead to from empty tables, whether they are carried out one after
the other or at the same time. -/
inductive Reached (policy : Policy) (timeoutMillis : Nat) (clock : Instant) : Service → Prop
  | session (steps : List Step) :
      Reached policy timeoutMillis clock ((start policy timeoutMillis clock).after steps)
  | world (actions : List Action) :
      Reached policy timeoutMillis clock
        ((World.start policy timeoutMillis clock).after actions).service

namespace Reached

theorem plan (h : s.Reached policy timeoutMillis clock) : s.plan = .none := by
  cases h with
  | session steps => exact ((start_idle policy timeoutMillis clock).after steps).plan
  | world actions => exact World.after_plan rfl actions

/-- A transaction apart, what operations lead to is idle. -/
theorem idle (h : s.Reached policy timeoutMillis clock) (hs : s.store.held = none) : s.Idle :=
  ⟨h.plan, hs⟩

/-- What empty tables have and operations keep, they have wherever operations lead. -/
theorem preserved {R : Reliance} {P : Tables → Prop} (hP : R.Preserves P) (hempty : P {})
    (h : s.Reached policy timeoutMillis clock) : P s.tables := by
  cases h with
  | session steps => exact hP.session (start_idle policy timeoutMillis clock) hempty steps
  | world actions =>
    exact hP.world (w := .start policy timeoutMillis clock) rfl
      (fun _ ht => absurd ht List.not_mem_nil) hempty actions

/-- What empty tables have and no call that operations make takes from them. -/
theorem kept {ok : Call → Prop} {P : Tables → Prop} (hrollback : ok .rollback)
    (hprogram : ∀ policy now d (o : Operation), Program.Calls ok (o.program policy now d))
    (hcall : ∀ {s s' : Store} {a : Agent} {c : Call} {r : Except StoreFailure c.Result},
      P s.tables → ok c → s.call a c = some (r, s') → P s'.tables)
    (hempty : P {}) (h : s.Reached policy timeoutMillis clock) : P s.tables :=
  h.preserved (.of_calls hrollback hprogram hcall) hempty

end Reached

end Service

end GroupAccess
