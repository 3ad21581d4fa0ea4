import GroupAccess.Proofs.Interleaving.World
import Mathlib.Data.List.Forall2

namespace GroupAccess

variable {α : Type}

/-- What is left of a task is the program. -/
def Task.Runs (t : Task) (p : Program α) : Prop :=
  ∃ h : α = t.operation.Result, t.rest = some (h ▸ p)

theorem Task.Runs.unique {t : Task} {p q : Program α} (hp : t.Runs p) (hq : t.Runs q) : p = q := by
  obtain ⟨o, d, rest, calls⟩ := t
  obtain ⟨h, hp⟩ := hp
  obtain ⟨_, hq⟩ := hq
  dsimp only at h hp hq
  subst h
  exact Option.some.inj (hp.symm.trans hq)

theorem Task.Runs.move {t : Task} {p : Program α} (h : t.Runs p) (a : Agent) (s : Service) :
    (t.move a s).1.Runs (s.advance a p).1 ∧ (t.move a s).2 = (s.advance a p).2 := by
  obtain ⟨o, d, rest, calls⟩ := t
  obtain ⟨h, hr⟩ := h
  dsimp only at h hr
  subst h
  subst hr
  exact ⟨⟨rfl, rfl⟩, rfl⟩

/-- The task of an operation that is started on a service. -/
def Task.begun (s : Service) (x : Operation × Draws) : Task :=
  { operation := x.1, draws := x.2, rest := some (x.1.program s.policy s.clock x.2) }

namespace World

variable {w : World} {ps : List (Agent × Program α)}

/-- Each program is what is left of the task of its agent. -/
def Runs (w : World) (ps : List (Agent × Program α)) : Prop :=
  ∀ x ∈ ps, ∃ t, w.tasks[x.1]? = some t ∧ t.Runs x.2

/-- One step of each agent. -/
def turn (agents : List Agent) : List Action := agents.map .move

/-- The tasks of other agents stay as they are. -/
theorem after_turn_of_not_mem {agents : List Agent} {b : Agent} (hb : b ∉ agents) (w : World) :
    (w.after (turn agents)).tasks[b]? = w.tasks[b]? := by
  induction agents generalizing w with
  | nil => rfl
  | cons a agents ih =>
    obtain ⟨hne, hb⟩ := not_or.1 fun h => hb (List.mem_cons.2 h)
    refine (ih hb _).trans ?_
    refine act_cases (P := fun v => v.tasks[b]? = w.tasks[b]?) rfl fun t _ => ?_
    exact List.getElem?_set_ne (Ne.symm hne)

/-- A round of programs is a turn of their tasks. -/
theorem Runs.round (h : w.Runs ps) (hd : (ps.map Prod.fst).Nodup) :
    (Service.round ps w.service).1.map Prod.fst = ps.map Prod.fst ∧
      (w.after (turn (ps.map Prod.fst))).service = (Service.round ps w.service).2 ∧
      (w.after (turn (ps.map Prod.fst))).Runs (Service.round ps w.service).1 := by
  induction ps generalizing w with
  | nil => exact ⟨rfl, rfl, fun x hx => absurd hx List.not_mem_nil⟩
  | cons x ps ih =>
    obtain ⟨a, p⟩ := x
    obtain ⟨ha, hd⟩ := List.nodup_cons.1 hd
    obtain ⟨t, ht, hp⟩ := h (a, p) List.mem_cons_self
    obtain ⟨hruns, hservice⟩ := hp.move a w.service
    have hstep : w.step (.move a) =
        w.replace a (t.move a w.service).1 (w.service.advance a p).2 := by
      rw [step, act_of_some ht, hservice]
    have hrest : (w.step (.move a)).Runs ps := by
      intro y hy
      obtain ⟨u, hu, hq⟩ := h y (List.mem_cons_of_mem _ hy)
      have hne : a ≠ y.1 := fun he => ha (List.mem_map.2 ⟨y, hy, he.symm⟩)
      refine ⟨u, ?_, hq⟩
      rw [hstep, World.replace, List.getElem?_set_ne hne]
      exact hu
    obtain ⟨hagents, hlast, hafter⟩ := ih hrest hd
    have hround : Service.round ((a, p) :: ps) w.service =
        ((a, (w.service.advance a p).1) ::
          (Service.round ps (w.step (.move a)).service).1,
            (Service.round ps (w.step (.move a)).service).2) := by
      rw [hstep]
      rfl
    rw [hround]
    refine ⟨congrArg (a :: ·) hagents, hlast, fun y hy => ?_⟩
    rcases List.mem_cons.1 hy with rfl | hy
    · refine ⟨(t.move a w.service).1, ?_, hruns⟩
      refine (after_turn_of_not_mem ha _).trans ?_
      rw [hstep, World.replace]
      exact List.getElem?_set_self (List.getElem?_eq_some_iff.1 ht).1
    · exact hafter y hy

/-- Rounds of programs are turns of their tasks, one for each round that is made. -/
theorem Runs.rounds (h : w.Runs ps) (hd : (ps.map Prod.fst).Nodup) (n : Nat) :
    ∃ k, k ≤ n ∧ let v := w.after (List.replicate k (turn (ps.map Prod.fst))).flatten
      (Service.rounds n ps w.service).1.map Prod.fst = ps.map Prod.fst ∧
        v.service = (Service.rounds n ps w.service).2 ∧
        v.Runs (Service.rounds n ps w.service).1 := by
  induction n generalizing w ps with
  | zero => exact ⟨0, Nat.le_refl 0, rfl, rfl, h⟩
  | succ n ih =>
    rw [Service.rounds]
    split
    · exact ⟨0, Nat.zero_le _, rfl, rfl, h⟩
    · obtain ⟨hagents, hservice, hruns⟩ := h.round hd
      obtain ⟨k, hk, hlast⟩ := ih hruns (hagents ▸ hd)
      rw [hagents, hservice] at hlast
      refine ⟨k + 1, Nat.succ_le_succ hk, ?_⟩
      rw [List.replicate_succ, List.flatten_cons, after_append]
      exact hlast

theorem after_starts (s : Service) (ts : List Task) (os : List (Operation × Draws)) :
    (World.mk s ts).after (os.map fun x => .start x.1 x.2) =
      ⟨s, ts ++ os.map (Task.begun s)⟩ := by
  induction os generalizing ts with
  | nil => exact congrArg (World.mk s) (List.append_nil ts).symm
  | cons x os ih =>
    refine (ih _).trans ?_
    rw [List.append_assoc]
    rfl

/-- When they are started, the tasks are the programs of their operations, each at its place. -/
theorem runs_begun {s : Service} {os : List (Operation × Draws)} {ps : List (Program α)}
    (h : List.Forall₂ (fun x p => (Task.begun s x).Runs p) os ps) :
    World.Runs ⟨s, os.map (Task.begun s)⟩ ((List.range ps.length).zip ps) := by
  rintro ⟨i, p⟩ hx
  obtain ⟨j, hj, hjx⟩ := List.mem_iff_getElem.1 hx
  have hps : j < ps.length := by simpa using hj
  have hos : j < os.length := h.length_eq ▸ hps
  have hjx : j = i ∧ ps[j] = p := by simpa using hjx
  obtain ⟨rfl, rfl⟩ := hjx
  exact ⟨Task.begun s os[j], by simp [hos], h.get hos hps⟩

end World

theorem Service.foldl_count (e : Event) (l : List α) (s : Service) :
    ∃ c, l.foldl (fun s _ => s.count e) s = { s with counters := c } := by
  induction l generalizing s with
  | nil => exact ⟨s.counters, rfl⟩
  | cons _ l ih => exact ih (s.count e)

theorem Service.result?_eq_some {p : Program α} {r : Except Refusal α} :
    result? p = some r ↔ p = .done r := by
  cases p with
  | done r' => simp [result?]
  | count e next => simp [result?]
  | call c next => simp [result?]

open World in
/-- Operations of one kind that are carried out together on a service are tasks of one world, which
are all started and then make their steps turn by turn. They leave the service as the tasks do, and
each result is that of its task, or says that its task did not come to its end. -/
theorem Service.performTogether_world (s : Service) (name : String) {os : List (Operation × Draws)}
    {ps : List (Program α)} (h : List.Forall₂ (fun x p => (Task.begun s x).Runs p) os ps) :
    ∃ k ≤ 8 * os.length + 1, let w := (World.mk s []).after (os.map (fun x => .start x.1 x.2) ++
        (List.replicate k (turn (List.range os.length))).flatten)
      (∃ c, (s.performTogether name ps).2 = { w.service with counters := c }) ∧
        (s.performTogether name ps).1.length = os.length ∧
        ∀ (i : Nat) (r : Except Refusal α), (s.performTogether name ps).1[i]? = some r →
          ∃ t : Task, w.tasks[i]? = some t ∧
            (t.Runs (.done r) ∨ r = .error (w.service.timedOut name) ∧
              ∀ r' : Except Refusal α, ¬t.Runs (.done r')) := by
  have hlen : os.length = ps.length := h.length_eq
  let agents := (List.range ps.length).zip ps
  have hfst : agents.map Prod.fst = List.range ps.length :=
    List.map_fst_zip (Nat.le_of_eq List.length_range)
  have hnodup : (agents.map Prod.fst).Nodup := by
    rw [hfst]
    exact List.nodup_range
  obtain ⟨k, hk, hagents, hservice, hruns⟩ := (runs_begun h).rounds hnodup (8 * ps.length + 1)
  rw [hfst] at hagents hservice hruns
  obtain ⟨c, hc⟩ := Service.foldl_count (.operation name)
    (Service.rounds (8 * ps.length + 1) agents s).1 (Service.rounds (8 * ps.length + 1) agents s).2
  have hworld : (World.mk s []).after (os.map (fun x => .start x.1 x.2) ++
      (List.replicate k (turn (List.range os.length))).flatten) =
        World.after ⟨s, os.map (Task.begun s)⟩
          (List.replicate k (turn (List.range ps.length))).flatten := by
    rw [World.after_append, after_starts, hlen]
    rfl
  refine ⟨k, hlen ▸ hk, ⟨c, ?_⟩, ?_, fun i r hr => ?_⟩
  · rw [hworld, hservice]
    exact hc
  · have hl := congrArg List.length hagents
    rw [List.length_map, List.length_range] at hl
    rw [hlen, ← hl, performTogether, List.length_map]
  · rw [performTogether, List.getElem?_map] at hr
    obtain ⟨⟨a, p⟩, hp, rfl⟩ := Option.map_eq_some_iff.1 hr
    have hi : (List.range ps.length)[i]? = some a := by
      rw [← hagents, List.getElem?_map, hp]
      rfl
    obtain ⟨hlt, ha⟩ := List.getElem?_eq_some_iff.1 hi
    rw [List.getElem_range] at ha
    obtain ⟨t, ht, hrest⟩ := hruns (a, p) (List.mem_of_getElem? hp)
    subst ha
    refine ⟨t, by rw [hworld]; exact ht, ?_⟩
    cases hresult : result? p with
    | some r =>
      cases result?_eq_some.1 hresult
      exact .inl hrest
    | none =>
      refine .inr ⟨by rw [hworld, hservice]; rfl, fun r' hr' => ?_⟩
      cases hrest.unique hr'
      cases hresult

end GroupAccess
