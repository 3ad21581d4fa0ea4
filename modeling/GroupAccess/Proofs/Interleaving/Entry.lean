import GroupAccess.Proofs.Interleaving.Conservation

namespace GroupAccess

/-- What is left of a redemption that nothing stands in the way of, and the number of calls it
still makes. -/
inductive Entering (s : Store) (a : Agent) : Nat → Program Membership → Prop
  | opened {id : InviteId} {user : UserId} {i : Invite} (hh : s.held = some (a, ⟨[], false⟩))
      (hi : s.tables.invites.get? id = some i) (hu : i.isExhausted = false)
      (hm : s.tables.memberships.contains (user, i.group) = false) :
      Entering s a 3 (Invites.opened id user)
  | taken {undo : List Undo} {m : Membership} (hh : s.held = some (a, ⟨undo, false⟩))
      (hm : s.tables.memberships.contains m.key = false) : Entering s a 2 (Invites.taken m)
  | entered {undo : List Undo} {m : Membership} (hh : s.held = some (a, ⟨undo, false⟩)) :
      Entering s a 1 (Invites.entered m)
  | ended {m : Membership} : Entering s a 0 (.done (.ok m))

namespace Entering

variable {s s' : Store} {a : Agent} {n : Nat} {p : Program Membership}

theorem held (h : Entering s a n p) : n = 0 ∨ ∃ x, s.held = some (a, x) := by
  cases h with
  | ended => exact .inl rfl
  | opened hh | taken hh | entered hh => exact .inr ⟨_, hh⟩

theorem congr (ht : s'.tables = s.tables) (hs : s'.held = s.held) (h : Entering s a n p) :
    Entering s' a n p := by
  cases h with
  | opened hh hi hu hm => exact opened (hs.trans hh) (by rwa [ht]) hu (by rwa [ht])
  | taken hh hm => exact taken (hs.trans hh) (by rwa [ht])
  | entered hh => exact entered (hs.trans hh)
  | ended => exact ended

theorem settled_eq (h : Entering s a n p) : p.settled = p := by
  cases h <;> rfl

/-- The next call is answered, and there is one less to make. -/
theorem call (h : Entering s a n p) {c : Call}
    {next : Except StoreFailure c.Result → Program Membership} (hp : p = .call c next) :
    ∃ r s', s.call a c = some (r, s') ∧ Entering s' a (n - 1) (next r).settled := by
  cases h with
  | opened hh hi hu hm =>
    cases hp
    refine ⟨_, _, Store.call_decrement hh (Tables.decrement_usable hi hu), ?_⟩
    exact taken rfl hm
  | taken hh hm =>
    cases hp
    exact ⟨_, _, Store.call_insertMembership hh (Tables.insertMembership_free hm), entered rfl⟩
  | entered hh =>
    cases hp
    exact ⟨_, _, Store.call_commit hh, ended⟩
  | ended => cases hp

theorem succeeded (h : Entering s a 0 p) {id : InviteId} {user : UserId} {d : Draws}
    {calls : List (Method × Bool)} :
    Task.succeeded ⟨.redeem id user, d, some p, calls⟩ = true := by
  cases h
  rfl

end Entering

namespace Task

variable {a b k : Agent} {x : Transaction} {s : Service}

/-- While another has a transaction open, a task that moves changes nothing in the store. -/
theorem move_beside (hp : s.plan = .none) (hh : s.store.held = some (k, x)) (hb : b ≠ k)
    (t : Task) : (t.move b s).2.store = s.store := by
  obtain ⟨o, d, rest, calls⟩ := t
  cases rest with
  | none => rfl
  | some p =>
    obtain ⟨k, hk | ⟨c, next, r, store, -, hc, hk⟩⟩ := move_cases d calls hp b p
    · rw [hk]
    · rw [hk]
      exact (Store.call_beside hh hb hc).1

theorem drop_beside (hh : s.store.held = some (k, x)) (hb : b ≠ k) (t : Task) :
    (t.drop b s).2.store = s.store := by
  unfold drop
  split
  · rfl
  · rfl
  · refine Store.abandon_stranger ?_
    rw [Store.holding, hh]
    exact if_neg (Ne.symm hb)

end Task

namespace World

variable {w : World} {a b : Agent} {n : Nat}

/-- The task of an agent is a redemption with `n` calls still to make, all of which succeed. -/
structure Enters (w : World) (a : Agent) (n : Nat) : Prop where
  plan : w.service.plan = .none
  task : ∃ id user d p calls, w.tasks[a]? = some ⟨.redeem id user, d, some p, calls⟩ ∧
    Entering w.service.store a n p

theorem Enters.replace (h : w.Enters a n) (hb : b ≠ a) {t : Task} {s' : Service}
    (hp : s'.plan = .none) (hs : ∀ x, w.service.store.held = some (a, x) →
      s'.store = w.service.store) : (w.replace b t s').Enters a n := by
  obtain ⟨id, user, d, p, calls, ht, he⟩ := h.task
  refine ⟨hp, id, user, d, p, calls, ?_, ?_⟩
  · rw [World.replace, List.getElem?_set_ne hb, ht]
  · rcases he.held with rfl | ⟨x, hx⟩
    · cases he
      exact .ended
    · rw [World.replace, hs x hx]
      exact he

/-- What all others do leaves the redemption where it is. -/
theorem Enters.other (h : w.Enters a n) {x : Action} (hd : x ≠ .drop a) (hm : x ≠ .move a) :
    (w.step x).Enters a n := by
  cases x with
  | start o d =>
    obtain ⟨id, user, d, p, calls, ht, he⟩ := h.task
    refine ⟨h.plan, id, user, d, p, calls, ?_, he⟩
    rw [step, List.getElem?_append_left (List.getElem?_eq_some_iff.1 ht).1, ht]
  | move b =>
    have hb : b ≠ a := fun hba => hm (by rw [hba])
    refine act_cases (P := fun v => v.Enters a n) h fun t ht => ?_
    exact h.replace hb (t.move_plan h.plan) fun x hx => t.move_beside h.plan hx hb
  | drop b =>
    have hb : b ≠ a := fun hba => hd (by rw [hba])
    refine act_cases (P := fun v => v.Enters a n) h fun t ht => ?_
    exact h.replace hb (t.drop_plan.trans h.plan) fun x hx => t.drop_beside hx hb
  | setClock now => exact ⟨h.plan, h.task⟩
  | setFaults tokenWrites commits =>
    obtain ⟨id, user, d, p, calls, ht, he⟩ := h.task
    refine ⟨h.plan, id, user, d, p, calls, ht, ?_⟩
    refine Entering.congr ?_ ?_ he
    all_goals rfl

theorem Enters.move (h : w.Enters a n) : (w.step (.move a)).Enters a (n - 1) := by
  obtain ⟨id, user, d, p, calls, ht, he⟩ := h.task
  rw [step, act_of_some ht]
  have ha : a < w.tasks.length := (List.getElem?_eq_some_iff.1 ht).1
  cases hs : p.settled with
  | done r =>
    obtain ⟨k, hk⟩ := Task.move_done d calls a w.service hs
    rw [hk]
    refine ⟨h.plan, id, user, d, p.settled, calls, List.getElem?_set_self ha, ?_⟩
    rw [he.settled_eq] at hs ⊢
    subst hs
    cases he
    exact .ended
  | count e next => exact absurd hs p.settled_ne_count
  | call c next =>
    obtain ⟨r, store, hc, he'⟩ := he.call (he.settled_eq.symm.trans hs)
    obtain ⟨k, hk⟩ := Task.move_answered d calls h.plan hs hc
    rw [hk]
    exact ⟨h.plan, id, user, d, _, _, List.getElem?_set_self ha, he'⟩

/-- A redemption that opens its transaction enters, if there is a use left, its user is not a member
yet and commits do not fail. -/
theorem Sound.enters (hw : w.Sound) {t : Task} (ht : w.tasks[a]? = some t) {id : InviteId}
    {user : UserId} (ho : t.operation = .redeem id user) (hl : w.Opens a)
    (hf : w.service.store.failsCommits = false) {i : Invite}
    (hi : w.service.tables.invites.get? id = some i) (hu : i.isExhausted = false)
    (hm : w.service.tables.memberships.contains (user, i.group) = false) :
    (w.step (.move a)).Enters a 3 := by
  obtain ⟨hh, hopen⟩ := hl
  have hs := hw.tasks a t ht
  rw [Store.holding_of_free hh] at hs
  rw [World.step, act_of_some ht] at hopen ⊢
  have hr : t.redeems id = true := by
    rw [Task.redeems, ho]
    exact decide_eq_true rfl
  rcases hs.redeems_cases hr with ⟨hn, -⟩ | ⟨u, d, p, calls, rfl, hp⟩
  · rw [Task.move, hn] at hopen
    exact absurd hh hopen
  · cases ho
    generalize calls.contains (.commit, true) = b at hp
    cases hp with
    | @ended r _ =>
      obtain ⟨k, hk⟩ := Task.move_done (o := .redeem id user) (p := .done r) d calls a w.service rfl
      rw [hk] at hopen
      exact absurd hh hopen
    | waiting =>
      have hs := Invites.redeem_settled id user
      obtain ⟨k, hk⟩ := Task.move_answered (o := .redeem id user) d calls hw.plan hs
        (Store.call_begin (k := a) hh)
      rw [hk]
      have ha : a < w.tasks.length := (List.getElem?_eq_some_iff.1 ht).1
      refine ⟨hw.plan, id, user, d, _, _, List.getElem?_set_self ha, ?_⟩
      refine .opened ?_ hi hu hm
      rw [← hf]
      rfl

/-- After enough calls of its own the redemption has succeeded. -/
theorem Enters.after (h : w.Enters a n) {actions : List Action} (hd : .drop a ∉ actions) :
    (w.after actions).Enters a (n - actions.countP fun x => x.moves a) := by
  induction actions generalizing w n with
  | nil => exact h
  | cons x actions ih =>
    have hx : x ≠ .drop a := fun he => hd (he ▸ List.mem_cons_self)
    have hrest : .drop a ∉ actions := fun hm => hd (List.mem_cons_of_mem x hm)
    rw [World.after, List.foldl_cons, ← World.after, List.countP_cons]
    cases hm : x.moves a with
    | true =>
      cases Action.eq_of_moves hm
      have hn : n - (actions.countP (fun x => x.moves a) + 1) =
          n - 1 - actions.countP fun x => x.moves a := by omega
      rw [if_pos rfl, hn]
      exact ih h.move hrest
    | false =>
      have hne : x ≠ .move a := by
        rintro rfl
        cases hm.symm.trans (decide_eq_true rfl)
      exact ih (h.other hx hne) hrest

theorem Enters.succeeded (h : w.Enters a 0) :
    ∃ t, w.tasks[a]? = some t ∧ t.succeeded = true := by
  obtain ⟨id, user, d, p, calls, ht, he⟩ := h.task
  exact ⟨_, ht, he.succeeded⟩

end World

end GroupAccess
