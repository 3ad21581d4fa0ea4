import GroupAccess.Proofs.Interleaving.Conservation
import GroupAccess.Proofs.Service.Idle

namespace GroupAccess

/-- Whether a program is at its end with a result. -/
def Program.gives {α : Type} : Program α → Bool
  | .done (.ok _) => true
  | _ => false

theorem Program.gives_of_settled {α : Type} {p : Program α} {c : Call}
    {next : Except StoreFailure c.Result → Program α} (h : p.settled = .call c next) :
    p.gives = false := by
  cases p with
  | done r => cases h
  | count e rest => rfl
  | call c' next' => rfl

/-- What contenders want, by the tables: it is free, or one of them has it. -/
structure Prize where
  /-- The programs of contenders that have so many calls left to make, at most. -/
  Stage : Tables → Nat → (o : Operation) → Program o.Result → Prop
  Free : Tables → Prop
  Taken : Tables → Prop
  /-- What a contender is told that does not get it. -/
  refusal : Refusal

namespace Prize

/-- What a call of a contender comes to, with what is left of its program. -/
structure Turn (K : Prize) (t t' : Tables) (n : Nat) (o : Operation) (p : Program o.Result) :
    Prop where
  stage : ∃ m ≤ n, K.Stage t' m o p
  others : ∀ m o' p', K.Stage t m o' p' → K.Stage t' m o' p'
  outcome : p.gives = false ∧ (K.Free t → K.Free t') ∧ (K.Taken t → K.Taken t') ∨
    p.gives = true ∧ K.Free t ∧ K.Taken t'

/-- A call that changes nothing takes nothing. -/
theorem Turn.same {K : Prize} {t : Tables} {n m : Nat} {o : Operation} {p : Program o.Result}
    (hm : m ≤ n) (hp : K.Stage t m o p) (hg : p.gives = false) : K.Turn t t n o p :=
  ⟨⟨m, hm, hp⟩, fun _ _ _ h => h, .inl ⟨hg, id, id⟩⟩

/-- The rules of a contest: who has calls left makes the next one, and only one gets the prize. -/
structure Fair (K : Prize) : Prop where
  turn : ∀ {s : Store} {a : Agent} {n : Nat} {o : Operation} {p : Program o.Result},
    K.Stage s.tables (n + 1) o p → s.held = none → K.Free s.tables ∨ K.Taken s.tables →
    ∃ c next r t, p.settled = .call c next ∧ s.call a c = some (r, { s with tables := t }) ∧
      K.Turn s.tables t n o (next r).settled
  ended : ∀ {t : Tables} {o : Operation} {p : Program o.Result}, K.Stage t 0 o p →
    (∃ v, p = .done (.ok v)) ∨ p = .done (.error K.refusal) ∧ ¬K.Free t
  apart : ∀ {t : Tables}, K.Free t → ¬K.Taken t

/-- Actions by which contenders with `n` calls to make start and go on; none is dropped. -/
def Admits (K : Prize) (policy : Policy) (n : Nat) : Action → Prop
  | .start o d => ∀ t now, K.Stage t n o (o.program policy now d)
  | .drop _ => False
  | _ => True

theorem admits_of_starts {K : Prize} {policy : Policy} {n : Nat} {actions : List Action}
    (hdrop : ∀ a, .drop a ∉ actions)
    (hstart : ∀ o d, .start o d ∈ actions → ∀ t now, K.Stage t n o (o.program policy now d)) :
    ∀ x ∈ actions, K.Admits policy n x := by
  intro x hx
  cases x with
  | start o d => exact hstart o d hx
  | drop a => exact hdrop a hx
  | move a => exact trivial
  | setClock now => exact trivial
  | setFaults tokenWrites commits => exact trivial

end Prize

namespace Task

variable {K : Prize} {t : Task} {n : Nat} {s : Service} {u : Tables}

theorem succeeded_eq (o : Operation) (d : Draws) (p : Program o.Result)
    (calls : List (Method × Bool)) : succeeded ⟨o, d, some p, calls⟩ = p.gives := by
  cases p with
  | done r => cases r <;> rfl
  | count e next => rfl
  | call c next => rfl

/-- The task of a contender that has at most `n` calls left to make. -/
def Contends (K : Prize) (u : Tables) (n : Nat) (t : Task) : Prop :=
  ∃ p m, t.rest = some p ∧ m ≤ n ∧ K.Stage u m t.operation p

theorem Contends.task (h : t.Contends K u n) :
    ∃ o d calls p m, t = ⟨o, d, some p, calls⟩ ∧ m ≤ n ∧ K.Stage u m o p := by
  obtain ⟨o, d, rest, calls⟩ := t
  obtain ⟨p, m, hrest, hm, hp⟩ := h
  exact ⟨o, d, calls, p, m, congrArg (Task.mk o d · calls) hrest, hm, hp⟩

/-- What a move of a contender does to the contest. -/
structure Played (K : Prize) (u u' : Tables) (n : Nat) (t t' : Task) : Prop where
  own : t'.Contends K u' (n - 1)
  others : ∀ m v, Contends K u m v → Contends K u' m v
  outcome : t'.succeeded = t.succeeded ∧ (K.Free u → K.Free u') ∧ (K.Taken u → K.Taken u') ∨
    t.succeeded = false ∧ t'.succeeded = true ∧ K.Free u ∧ K.Taken u'

/-- A contender that moves makes its next call, if it has one left. -/
theorem Contends.move (hK : K.Fair) (h : t.Contends K s.tables n) (hi : s.Idle)
    (hu : K.Free s.tables ∨ K.Taken s.tables) (a : Agent) :
    ∃ u k, (t.move a s).2 = s.leaving u k ∧ t.Played K s.tables u n (t.move a s).1 := by
  obtain ⟨o, d, calls, p, m, rfl, hm, hp⟩ := h.task
  cases m with
  | zero =>
    have hdone : ∃ r, p = .done r := by
      rcases hK.ended hp with ⟨v, hv⟩ | ⟨he, -⟩
      · exact ⟨_, hv⟩
      · exact ⟨_, he⟩
    obtain ⟨r, rfl⟩ := hdone
    obtain ⟨k, hk⟩ := move_done (p := .done r) d calls a s rfl
    rw [hk]
    exact ⟨s.tables, k, rfl, ⟨_, 0, rfl, Nat.zero_le _, hp⟩, fun _ _ h => h, .inl ⟨rfl, id, id⟩⟩
  | succ m =>
    obtain ⟨c, next, r, u, hs, hc, hturn⟩ := hK.turn (a := a) hp hi.held hu
    obtain ⟨k, hk⟩ := move_answered d calls hi.plan hs hc
    obtain ⟨m', hm', hstage⟩ := hturn.stage
    have hless : m' ≤ n - 1 := by omega
    rw [hk]
    refine ⟨u, k, rfl, ⟨_, m', rfl, hless, hstage⟩, ?_, ?_⟩
    · rintro i v ⟨q, j, hq, hj, hv⟩
      exact ⟨q, j, hq, hj, hturn.others _ _ _ hv⟩
    · rw [succeeded_eq, succeeded_eq, Program.gives_of_settled hs]
      rcases hturn.outcome with hout | hout
      · exact .inl hout
      · exact .inr ⟨rfl, hout⟩

/-- A contender that has no call left to make got the prize, or is told that it did not. -/
theorem Contends.ended (hK : K.Fair) (h : t.Contends K u 0) :
    t.succeeded = true ∨ t.refusal? = some K.refusal ∧ ¬K.Free u := by
  obtain ⟨o, d, calls, p, m, rfl, hm, hp⟩ := h.task
  cases Nat.le_zero.1 hm
  rcases hK.ended hp with ⟨v, rfl⟩ | ⟨rfl, hfree⟩
  · exact .inl rfl
  · exact .inr ⟨rfl, hfree⟩

end Task

/-- Each task that the actions start makes `n` steps after that, or more. The first of them is that
of the agent `a`. -/
def Action.Served (n : Nat) : Agent → List Action → Prop
  | _, [] => True
  | a, .start _ _ :: rest => n ≤ (rest.countP fun x => x.moves a) ∧ Served n (a + 1) rest
  | a, _ :: rest => Served n a rest

namespace World

variable {K : Prize} {policy : Policy} {w : World} {a : Agent} {n : Nat} {x : Action}

/-- All tasks are those of contenders, of whom one has the prize unless it is free. -/
structure Contested (K : Prize) (policy : Policy) (w : World) : Prop where
  idle : w.service.Idle
  policy : w.service.policy = policy
  tasks : ∀ t ∈ w.tasks, ∃ n, t.Contends K w.service.tables n
  score : K.Free w.service.tables ∧ w.tasks.countP Task.succeeded = 0 ∨
    K.Taken w.service.tables ∧ w.tasks.countP Task.succeeded = 1

/-- The task of an agent is that of a contender that has at most `n` calls left to make. -/
def Nears (K : Prize) (w : World) (a : Agent) (n : Nat) : Prop :=
  ∃ t, w.tasks[a]? = some t ∧ t.Contends K w.service.tables n

theorem Contested.settled (h : w.Contested K policy) :
    K.Free w.service.tables ∨ K.Taken w.service.tables :=
  h.score.imp And.left And.left

/-- What a move of one contender does, the others keep. -/
theorem Contested.move (hK : K.Fair) (h : w.Contested K policy) {t : Task}
    (ht : w.tasks[a]? = some t) (hn : t.Contends K w.service.tables n) :
    (w.step (.move a)).Contested K policy ∧ (w.step (.move a)).Nears K a (n - 1) ∧
      ∀ b m, b ≠ a → w.Nears K b m → (w.step (.move a)).Nears K b m := by
  obtain ⟨u, k, hs, hplay⟩ := hn.move hK h.idle h.settled a
  have ha : a < w.tasks.length := (List.getElem?_eq_some_iff.1 ht).1
  rw [step, act_of_some ht, hs, replace]
  refine ⟨⟨h.idle.leaving u k, h.policy, fun v hv => ?_, ?_⟩, ?_, fun b m hb hm => ?_⟩
  · rcases List.mem_or_eq_of_mem_set hv with hv | rfl
    · obtain ⟨m, hm⟩ := h.tasks v hv
      exact ⟨m, hplay.others m v hm⟩
    · exact ⟨n - 1, hplay.own⟩
  · have hcount := countP_set (p := Task.succeeded) (y := (t.move a w.service).1) ht
    rcases hplay.outcome with ⟨he, hfree, htaken⟩ | ⟨hold, hnew, hfree, htaken⟩
    · rw [he] at hcount
      rcases h.score with ⟨hf, hzero⟩ | ⟨htk, hone⟩
      · exact .inl ⟨hfree hf, by dsimp only; omega⟩
      · exact .inr ⟨htaken htk, by dsimp only; omega⟩
    · rw [hold, hnew] at hcount
      rcases h.score with ⟨-, hzero⟩ | ⟨htk, -⟩
      · refine .inr ⟨htaken, ?_⟩
        rw [hzero] at hcount
        exact hcount
      · exact absurd htk (hK.apart hfree)
  · exact ⟨_, List.getElem?_set_self ha, hplay.own⟩
  · obtain ⟨v, hv, hm⟩ := hm
    refine ⟨v, ?_, hplay.others m v hm⟩
    rw [List.getElem?_set_ne hb.symm, hv]

theorem Contested.start (hK : K.Fair) (h : w.Contested K policy) {o : Operation} {d : Draws}
    (hx : K.Admits policy (n + 1) (.start o d)) :
    (w.step (.start o d)).Contested K policy ∧
      (w.step (.start o d)).Nears K w.tasks.length (n + 1) := by
  have hstage := hx w.service.tables w.service.clock
  rw [← h.policy] at hstage
  have hnew : Task.Contends K w.service.tables (n + 1)
      ⟨o, d, some (o.program w.service.policy w.service.clock d), []⟩ :=
    ⟨_, n + 1, rfl, Nat.le_refl _, hstage⟩
  obtain ⟨c, next, -, -, hs, -⟩ := hK.turn (a := 0) hstage h.idle.held h.settled
  refine ⟨⟨h.idle, h.policy, fun t ht => ?_, ?_⟩, _, List.getElem?_concat_length, hnew⟩
  · rcases List.mem_append.1 ht with ht | ht
    · exact h.tasks t ht
    · exact ⟨n + 1, List.mem_singleton.1 ht ▸ hnew⟩
  · have hscore : (w.step (.start o d)).tasks.countP Task.succeeded =
        w.tasks.countP Task.succeeded := by
      rw [step, List.countP_append, List.countP_singleton, Task.succeeded_eq,
        Program.gives_of_settled hs]
      rfl
    rw [hscore]
    exact h.score

/-- An action keeps up the contest, and takes nobody back. -/
theorem Contested.step (hK : K.Fair) (h : w.Contested K policy) (hx : K.Admits policy (n + 1) x) :
    (w.step x).Contested K policy ∧
      ∀ b m, w.Nears K b m → (w.step x).Nears K b (m - (x.moves b).toNat) := by
  cases x with
  | start o d =>
    refine ⟨(h.start hK hx).1, fun b m hb => ?_⟩
    obtain ⟨t, ht, hm⟩ := hb
    have hlt : b < w.tasks.length := (List.getElem?_eq_some_iff.1 ht).1
    exact ⟨t, (List.getElem?_append_left hlt).trans ht, hm⟩
  | move a =>
    cases ht : w.tasks[a]? with
    | none =>
      have hsame : w.step (.move a) = w := by rw [World.step, act, ht]
      rw [hsame]
      refine ⟨h, fun b m hb => ?_⟩
      obtain ⟨t, hb, hm⟩ := hb
      have hne : a ≠ b := by
        rintro rfl
        cases ht.symm.trans hb
      rw [Action.moves, decide_eq_false hne]
      exact ⟨t, hb, hm⟩
    | some t =>
      obtain ⟨n, hn⟩ := h.tasks t (List.mem_of_getElem? ht)
      refine ⟨(h.move hK ht hn).1, fun b m hb => ?_⟩
      by_cases hab : a = b
      · subst hab
        obtain ⟨v, hv, hm⟩ := hb
        rw [Action.moves, decide_eq_true rfl]
        exact (h.move hK hv hm).2.1
      · rw [Action.moves, decide_eq_false hab]
        exact (h.move hK ht hn).2.2 b m (Ne.symm hab) hb
  | drop a => cases hx
  | setClock now | setFaults tokenWrites commits =>
    exact ⟨⟨⟨h.idle.plan, h.idle.held⟩, h.policy, h.tasks, h.score⟩, fun _ _ hb => hb⟩

theorem Nears.mono {m : Nat} (h : w.Nears K a n) (hm : n ≤ m) : w.Nears K a m := by
  obtain ⟨t, ht, p, i, hp, hi, hstage⟩ := h
  exact ⟨t, ht, p, i, hp, Nat.le_trans hi hm, hstage⟩

theorem length_act (w : World) (a : Agent) (f : Task → Service → Task × Service) :
    (w.act a f).tasks.length = w.tasks.length :=
  act_cases (P := fun v => v.tasks.length = w.tasks.length) rfl fun _ _ => List.length_set

/-- When all contenders are served, they come to their end. -/
theorem Contested.after (hK : K.Fair) (h : w.Contested K policy) {actions : List Action}
    (hx : ∀ x ∈ actions, K.Admits policy (n + 1) x)
    (hserved : Action.Served (n + 1) w.tasks.length actions)
    (hnear : ∀ b < w.tasks.length, w.Nears K b (actions.countP fun x => x.moves b)) :
    (w.after actions).Contested K policy ∧
      ∀ b < (w.after actions).tasks.length, (w.after actions).Nears K b 0 := by
  induction actions generalizing w with
  | nil => exact ⟨h, hnear⟩
  | cons x actions ih =>
    have hhere := hx x List.mem_cons_self
    obtain ⟨hstep, hless⟩ := h.step hK hhere
    have hrest (y : Action) (hy : y ∈ actions) := hx y (List.mem_cons_of_mem x hy)
    have hold (b : Agent) (hb : b < w.tasks.length) :
        (w.step x).Nears K b (actions.countP fun x => x.moves b) := by
      refine (hless b _ (hnear b hb)).mono ?_
      rw [List.countP_cons]
      cases x.moves b with
      | true => exact Nat.le_refl _
      | false => exact Nat.le_refl _
    cases x with
    | start o d =>
      obtain ⟨hmany, hserved⟩ := hserved
      have hlength : (w.step (.start o d)).tasks.length = w.tasks.length + 1 := List.length_append
      refine ih hstep hrest (hlength ▸ hserved) fun b hb => ?_
      rw [hlength] at hb
      rcases Nat.lt_succ_iff_lt_or_eq.1 hb with hlt | rfl
      · exact hold b hlt
      · exact (h.start hK hhere).2.mono hmany
    | move a =>
      have hlength : (w.step (.move a)).tasks.length = w.tasks.length := w.length_act a _
      exact ih hstep hrest (hlength ▸ hserved) (hlength ▸ hold)
    | drop a => cases hhere
    | setClock now | setFaults tokenWrites commits =>
      exact ih hstep hrest hserved hold

/-- Who starts has a task. -/
theorem tasks_pos {actions : List Action}
    (h : 0 < w.tasks.length ∨ ∃ o d, .start o d ∈ actions) :
    0 < (w.after actions).tasks.length := by
  induction actions generalizing w with
  | nil =>
    rcases h with h | ⟨o, d, hm⟩
    · exact h
    · cases hm
  | cons x actions ih =>
    have hother (hne : ∀ o d, x ≠ .start o d) :
        0 < w.tasks.length ∨ ∃ o d, .start o d ∈ actions := by
      refine h.imp_right fun hm => ?_
      obtain ⟨o, d, hm⟩ := hm
      exact ⟨o, d, (List.mem_cons.1 hm).resolve_left fun he => hne o d he.symm⟩
    apply ih
    cases x with
    | start o d =>
      rw [step, List.length_append]
      exact .inl (Nat.succ_pos _)
    | move a | drop a =>
      rw [step, length_act]
      refine hother ?_
      intro o d he
      cases he
    | setClock now | setFaults tokenWrites commits =>
      refine hother ?_
      intro o d he
      cases he

end World

open World in
/-- When contenders start where the prize is free, and each makes its calls, one gets the prize and
the others are told that they do not. -/
theorem Prize.Fair.decided {K : Prize} (hK : K.Fair) {s : Service} (hi : s.Idle)
    (hfree : K.Free s.tables) {n : Nat} {actions : List Action}
    (hx : ∀ x ∈ actions, K.Admits s.policy (n + 1) x) (hserved : Action.Served (n + 1) 0 actions)
    (hstart : ∃ o d, .start o d ∈ actions) :
    let w := World.after { service := s } actions
    w.tasks.countP Task.succeeded = 1 ∧
      (∀ t ∈ w.tasks, t.succeeded = true ∨ t.refusal? = some K.refusal) ∧
      ∃ o d v calls, ⟨o, d, some (.done (.ok v)), calls⟩ ∈ w.tasks ∧
        K.Stage w.service.tables 0 o (.done (.ok v)) := by
  intro w
  have hbegin : Contested K s.policy { service := s } :=
    ⟨hi, rfl, fun t ht => absurd ht List.not_mem_nil, .inl ⟨hfree, rfl⟩⟩
  obtain ⟨hw, hnear⟩ := hbegin.after hK hx hserved fun b hb => absurd hb (Nat.not_lt_zero b)
  have htasks (t : Task) (ht : t ∈ w.tasks) : t.Contends K w.service.tables 0 := by
    obtain ⟨a, ha⟩ := List.mem_iff_getElem?.1 ht
    obtain ⟨v, hv, hend⟩ := hnear a (List.getElem?_eq_some_iff.1 ha).1
    cases ha.symm.trans hv
    exact hend
  rcases hw.score with ⟨hopen, hzero⟩ | ⟨htaken, hone⟩
  · -- The prize is not free when a contender is at its end.
    have hpos : 0 < w.tasks.length := tasks_pos (.inr hstart)
    have ht : w.tasks[0] ∈ w.tasks := List.getElem_mem hpos
    rcases (htasks _ ht).ended hK with hgets | ⟨-, hgone⟩
    · exact absurd hgets (List.countP_eq_zero.1 hzero _ ht)
    · exact absurd hopen hgone
  · refine ⟨hone, fun t ht => ?_, ?_⟩
    · exact ((htasks t ht).ended hK).imp_right And.left
    · obtain ⟨t, ht, hgets⟩ := List.countP_pos_iff.1 (hone ▸ Nat.one_pos)
      obtain ⟨o, d, calls, p, m, rfl, hm, hp⟩ := (htasks t ht).task
      cases Nat.le_zero.1 hm
      rcases hK.ended hp with ⟨v, rfl⟩ | ⟨rfl, -⟩
      · exact ⟨o, d, v, calls, ht, hp⟩
      · cases hgets

end GroupAccess
