import GroupAccess.Proofs.Interleaving.Placing

namespace GroupAccess

open Program

theorem Call.eq_createInvite {c : Call} (h : c.method = .createInvite) :
    ∃ i, c = .createInvite i := by
  cases c <;> first | exact ⟨_, rfl⟩ | cases h

namespace World

/-- The next step of an agent stores an invite to a group that is gone. -/
def Strands (w : World) (a : Agent) : Prop :=
  ∃ actor group role uses d p calls,
    w.tasks[a]? = some ⟨.createInvite actor group role uses, d, some p, calls⟩ ∧
    w.service.answer? a p = some (.createInvite, true) ∧
    w.service.tables.groups.get? group = none

/-- The next step of `b` deletes the owner of the group, and the group with it, to which the task of
`a` is making an invite and which it has found. -/
def Undercuts (w : World) (b a : Agent) : Prop :=
  ∃ actor group role uses d p calls g,
    w.tasks[a]? = some ⟨.createInvite actor group role uses, d, some p, calls⟩ ∧
    (∀ r, p ≠ .done r) ∧ calls.contains (.findGroup, true) = true ∧
    w.service.tables.groups.get? group = some g ∧
    (∃ t, w.tasks[b]? = some t ∧ t.operation = .deleteUser g.owner) ∧
    (w.step (.move b)).service.tables.groups.get? group = none

/-- The next step of an agent ends its redemption with a new member. -/
def Admits (w : World) (a : Agent) (m : Membership) : Prop :=
  ∃ id user d p calls calls', w.tasks[a]? = some ⟨.redeem id user, d, some p, calls⟩ ∧
    (∀ r, p ≠ .done r) ∧ (w.step (.move a)).tasks[a]? =
      some ⟨.redeem id user, d, some (.done (.ok m)), calls'⟩

/-- All tasks are in one of their states. The group of an invite that an agent is making may be gone
only if `gone` says so. -/
structure Placed (w : World) (gone : Agent → Prop) : Prop where
  plan : w.service.plan = .none
  tasks : ∀ (a : Agent) (t : Task), w.tasks[a]? = some t → t.Placed w.service.store a (gone a)

section

variable {w : World} {gone gone' : Agent → Prop} {a b : Agent} {t : Task}

theorem Placed.mono (hw : w.Placed gone) (h : ∀ a, gone a → gone' a) : w.Placed gone' :=
  ⟨hw.plan, fun a t ht => (hw.tasks a t ht).mono (h a)⟩

/-- A task that makes a step, and all others beside it. -/
theorem placed_replace {u : Task} {s : Service} (hp : s.plan = .none)
    (hu : u.Placed s.store a (gone a))
    (hother : ∀ (b : Agent) (v : Task), b ≠ a → w.tasks[b]? = some v →
      v.Placed s.store b (gone b)) : (w.replace a u s).Placed gone := by
  refine ⟨hp, fun b v hv => ?_⟩
  by_cases hab : a = b
  · subst hab
    rw [World.replace, List.getElem?_set_self'] at hv
    obtain ⟨-, -, rfl⟩ := Option.map_eq_some_iff.1 hv
    exact hu
  · rw [World.replace, List.getElem?_set_ne hab] at hv
    exact hother b v (Ne.symm hab) hv

theorem Placed.move (hw : w.Placed gone) (hgone : ∀ a, gone a → gone' a)
    (hcut : ∀ a, w.Undercuts b a → gone' a) : (w.step (.move b)).Placed gone' := by
  have hw' := hw.mono hgone
  cases ht : w.tasks[b]? with
  | none =>
    rw [step, act, ht]
    exact hw'
  | some t =>
    have hstep := act_of_some ht (Task.move b)
    rw [step, hstep]
    obtain ⟨o, d, rest, calls⟩ := t
    have htask := hw'.tasks b _ ht
    cases rest with
    | none => exact placed_replace hw.plan htask fun c v _ hv => hw'.tasks c v hv
    | some p =>
      obtain ⟨k, hk | ⟨c, next, r, store, hs, hc, hk⟩⟩ :=
        Task.move_cases d calls hw.plan b p
      · rw [hk]
        exact placed_replace hw.plan htask.settled fun c v _ hv => hw'.tasks c v hv
      · obtain ⟨hnext, hl⟩ := htask.answered hs hc
        rw [hk] at hstep ⊢
        refine placed_replace hw.plan hnext fun a v hne hv => ?_
        refine (hw.tasks a v hv).beside (fun x hx => ?_) ?_ (hgone a)
        · rw [(Store.call_beside hx (Ne.symm hne) hc).1]
          exact ⟨rfl, rfl⟩
        · -- Only a deletion of its owner takes away a group that was found.
          rintro actor group role uses d' q calls' rfl hq hf hfound
          obtain ⟨g, hg⟩ := Table.contains_eq_true.1 hfound
          cases hgone : store.tables.groups.get? group with
          | some g' => exact .inl (Table.contains_eq_true.2 ⟨g', hgone⟩)
          | none =>
            refine .inr (hcut a ⟨actor, group, role, uses, d', q, calls', g, hv, hq, hf, hg,
              ⟨_, ht, ?_⟩, ?_⟩)
            · refine (hl.groups group g hg).resolve_left ?_
              rw [Table.contains, hgone]
              exact Bool.false_ne_true
            · rw [step, hstep]
              exact hgone

theorem Placed.drop (hw : w.Placed gone) : (w.step (.drop b)).Placed gone := by
  refine act_cases (P := fun v => v.Placed gone) hw fun t ht => ?_
  have hsame : (w.replace b t w.service).Placed gone :=
    placed_replace hw.plan (hw.tasks b t ht) fun a v _ hv => hw.tasks a v hv
  unfold Task.drop
  split
  · exact hsame
  · exact hsame
  · refine placed_replace hw.plan .dropped fun a v hne hv => ?_
    refine (hw.tasks a v hv).beside (fun x hx => ?_) (fun _ _ _ _ _ _ _ _ _ _ hg => ?_) id
    · have hb : w.service.store.holding b = none := by
        rw [Store.holding, hx]
        exact if_neg hne
      rw [Store.abandon_stranger hb]
      exact ⟨rfl, rfl⟩
    · rw [(w.service.store.abandon_leads b).1]
      exact .inl hg

theorem Placed.started (hw : w.Placed gone) (o : Operation) (d : Draws) :
    (w.step (.start o d)).Placed gone := by
  refine ⟨hw.plan, fun (b : Nat) u hu => ?_⟩
  rcases Nat.lt_or_ge b w.tasks.length with hlt | hge
  · rw [step, List.getElem?_append_left hlt] at hu
    exact hw.tasks b u hu
  · rw [step, List.getElem?_append_right hge] at hu
    rw [List.mem_singleton.1 (List.mem_of_getElem? hu)]
    exact .start w.service.policy w.service.clock o d

theorem Placed.step (hw : w.Placed gone) (x : Action) (hgone : ∀ a, gone a → gone' a)
    (hcut : ∀ b a, x = .move b → w.Undercuts b a → gone' a) : (w.step x).Placed gone' := by
  cases x with
  | start o d => exact (hw.mono hgone).started o d
  | move b => exact hw.move hgone fun a => hcut b a rfl
  | drop b => exact (hw.mono hgone).drop
  | setClock now => exact ⟨hw.plan, (hw.mono hgone).tasks⟩
  | setFaults tokenWrites commits =>
    refine ⟨hw.plan, fun a t ht => ?_⟩
    exact ((hw.mono hgone).tasks a t ht).beside (fun _ _ => ⟨rfl, rfl⟩)
      (fun _ _ _ _ _ _ _ _ _ _ hg => .inl hg) id

/-- The group of an invite that is being made is gone only after a step that deleted it. -/
theorem after_placed (policy : Policy) (timeoutMillis : Nat) (clock : Instant)
    (actions : List Action) :
    ((start policy timeoutMillis clock).after actions).Placed fun a =>
      ∃ pre b post, actions = pre ++ .move b :: post ∧
        ((start policy timeoutMillis clock).after pre).Undercuts b a := by
  induction actions using List.reverseRecOn with
  | nil =>
    refine ⟨rfl, fun a t ht => ?_⟩
    cases ht
  | append_singleton actions x ih =>
    rw [after_concat]
    refine ih.step x ?_ ?_
    · rintro a ⟨pre, b, post, rfl, h⟩
      exact ⟨pre, b, post ++ [x], by rw [List.append_assoc, List.cons_append], h⟩
    · rintro b a rfl h
      exact ⟨actions, b, [], rfl, h⟩

/-- No row loses its group by a step that does not store an invite to one that is gone. -/
theorem Placed.grounded (hw : w.Placed gone) (hg : w.service.tables.Grounded) (x : Action)
    (hx : ∀ a, x = .move a → ¬w.Strands a) : (w.step x).service.tables.Grounded := by
  cases x with
  | start o d => exact hg
  | setClock now => exact hg
  | setFaults tokenWrites commits => exact hg
  | drop a =>
    refine act_cases (P := fun v => v.service.tables.Grounded) hg fun t ht => ?_
    unfold Task.drop
    split
    · exact hg
    · exact hg
    · exact (w.service.store.abandon_leads a).2 hg
  | move a =>
    refine act_cases (P := fun v => v.service.tables.Grounded) hg fun t ht => ?_
    obtain ⟨o, d, rest, calls⟩ := t
    cases rest with
    | none => exact hg
    | some p =>
      obtain ⟨k, hk | ⟨c, next, r, store, hs, hc, hk⟩⟩ :=
        Task.move_cases d calls hw.plan a p
      · rw [hk]
        exact hg
      · obtain ⟨-, hl⟩ := (hw.tasks a _ ht).answered hs hc
        rw [hk]
        refine hl.grounded hg fun actor group role uses ho hm => ?_
        subst ho
        by_contra hn
        refine hx a rfl ⟨actor, group, role, uses, d, p, calls, ht, ?_, ?_⟩
        · obtain ⟨-, -, hanswer⟩ := w.service.advance_answered hw.plan hs hc
          obtain ⟨i, rfl⟩ := Call.eq_createInvite hm
          obtain ⟨-, rfl, -⟩ := Store.call_createInvite hc
          exact hanswer
        · exact Table.contains_eq_false.1 (Bool.eq_false_iff.2 hn)

/-- An invite that is stored when its group is gone stays without it, and the group was there when
it was looked for. -/
theorem Placed.stranded (hw : w.Placed gone) (h : w.Strands a) :
    ¬(w.step (.move a)).service.tables.Grounded ∧ gone a := by
  obtain ⟨actor, group, role, uses, d, p, calls, ht, hanswer, hg⟩ := h
  obtain ⟨c, next, r, store, hs, hc, hm, -⟩ := Service.answer?_eq_some hw.plan hanswer
  obtain ⟨i, rfl⟩ := Call.eq_createInvite hm
  have htask := hw.tasks a _ ht
  refine ⟨fun hgr => ?_, htask.gone_of_createInvite hs hg⟩
  obtain ⟨⟨_, _, _, ho⟩, -⟩ := (htask.fits nofun).head hs
  obtain ⟨-, -, rfl⟩ := Store.call_createInvite hc
  obtain ⟨k, hk⟩ := Task.move_answered (o := .createInvite actor group role uses) d calls
    hw.plan hs hc
  rw [World.step, act_of_some ht, hk] at hgr
  have hi : w.service.tables.groups.contains i.group = true :=
    hgr.invites i.id i (Table.get?_insert_self ..)
  rw [← (Operation.createInvite.inj ho).2.1, Table.contains, hg] at hi
  cases hi

/-- A redemption that ends with a new member does so while the group is there. -/
theorem Placed.admitted (hw : w.Placed gone) (hg : w.service.tables.Grounded) {m : Membership}
    (h : w.Admits a m) :
    (w.step (.move a)).service.tables.memberships.get? m.key = some m ∧
      (w.step (.move a)).service.tables.groups.contains m.group = true := by
  obtain ⟨id, user, d, p, calls, calls', ht, hp, hend⟩ := h
  have hadm := (hw.tasks a _ ht).redemption hp
  have hgr := hw.grounded hg (.move a) fun b hb => by
    rintro ⟨actor, group, role, uses, d', q, calls'', hb', -⟩
    cases hb
    cases ht.symm.trans hb'
  suffices hm : (w.step (.move a)).service.tables.memberships.get? m.key = some m from
    ⟨hm, (hgr.members m.key m hm).2⟩
  have ha : a < w.tasks.length := (List.getElem?_eq_some_iff.1 ht).1
  obtain ⟨k, hk | ⟨c, next, r, store, hs, hc, hk⟩⟩ :=
    Task.move_cases (o := .redeem id user) d calls hw.plan a p
  · rw [World.step, act_of_some ht, hk, World.replace, List.getElem?_set_self ha] at hend
    simp only [Option.some.injEq, Task.mk.injEq, heq_eq_eq, true_and] at hend
    exact absurd (hadm.settled_eq.symm.trans hend.1) (hp _)
  · rw [World.step, act_of_some ht, hk, World.replace] at hend ⊢
    rw [List.getElem?_set_self ha] at hend
    simp only [Option.some.injEq, Task.mk.injEq, heq_eq_eq, true_and] at hend
    exact hadm.admitted (hadm.settled_eq.symm.trans hs) hc hend.1

end

end World

/-- In every interleaving

* all invites and memberships lead to groups that exist, from beginning to end, if and only if no
  invite is stored when its group is gone;
* an invite is stored so only after a step that deleted the owner of its group, while the group had
  been found and the invite was not made yet;
* whenever a redemption ends with a new member, in a world where all rows have their groups, the
  membership is in the tables and its group exists. -/
theorem admissions_grounded (policy : Policy) (timeoutMillis : Nat) (clock : Instant)
    (actions : List Action) :
    let w := World.start policy timeoutMillis clock
    ((∀ pre, pre <+: actions → (w.after pre).service.tables.Grounded) ↔
      ∀ pre a, pre ++ [.move a] <+: actions → ¬(w.after pre).Strands a) ∧
    (∀ pre a, (w.after pre).Strands a →
      ∃ before b between, pre = before ++ .move b :: between ∧ (w.after before).Undercuts b a) ∧
    ∀ pre a m, (w.after pre).service.tables.Grounded → (w.after pre).Admits a m →
      ((w.after pre).step (.move a)).service.tables.memberships.get? m.key = some m ∧
        ((w.after pre).step (.move a)).service.tables.groups.contains m.group = true := by
  intro w
  have hplaced := World.after_placed policy timeoutMillis clock
  refine ⟨⟨fun hg pre a hpre hs => ?_, fun hs pre hpre => ?_⟩, fun pre a hs => ?_,
    fun pre a m hg hm => (hplaced pre).admitted hg hm⟩
  · refine ((hplaced pre).stranded hs).1 ?_
    rw [← World.after_concat]
    exact hg _ hpre
  · induction pre using List.reverseRecOn with
    | nil => exact .empty
    | append_singleton pre x ih =>
      rw [World.after_concat]
      refine (hplaced pre).grounded (ih ((List.prefix_append pre [x]).trans hpre)) x ?_
      rintro a rfl
      exact hs pre a hpre
  · exact ((hplaced pre).stranded hs).2

namespace Sample

/-- A member founds a group and makes an invite. Before it is stored the member is deleted, and then
a guest redeems it. -/
def undercut : List Action :=
  [.start (.register "a@b.c" ⟨""⟩) (draws 1), .move 0, .move 0,
    .start (.createGroup member "readers" none) (draws 2), .move 1, .move 1,
    .start (.createInvite member ⟨uuid 2⟩ .member 1) (draws 3), .move 2, .move 2, .move 2, .move 2,
    .start (.deleteUser member) (draws 4), .move 3, .move 2,
    .start (.redeem ⟨uuid 3⟩ guest) (draws 5), .move 4, .move 4, .move 4, .move 4]

end Sample

open Sample in
/-- A guest is admitted into a group that does not exist. -/
theorem undercut_admitted :
    ((World.start openPolicy 5000 clock).after undercut).tasks.map Task.succeeded =
        [true, true, true, true, true] ∧
      let t := ((World.start openPolicy 5000 clock).after undercut).service.tables
      t.groups.size = 0 ∧ t.invites.rows.map Invite.group = [⟨uuid 2⟩] ∧
        t.memberships.rows.map Membership.key = [(guest, ⟨uuid 2⟩)] := by
  decide +kernel

end GroupAccess
