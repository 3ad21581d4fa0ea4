import GroupAccess.Proofs.Interleaving.Move

namespace GroupAccess

section

variable {α β : Type} {l : List α} {n m : Nat} {x y : α}

theorem countP_set {p : α → Bool} (hx : l[n]? = some x) :
    (l.set n y).countP p + (p x).toNat = l.countP p + (p y).toNat := by
  induction l generalizing n with
  | nil => cases hx
  | cons z l ih =>
    cases n with
    | zero =>
      cases hx
      rw [List.set_cons_zero, List.countP_cons, List.countP_cons]
      cases p x <;> cases p y <;> rfl
    | succ n =>
      have ih := ih hx
      rw [List.set_cons_succ, List.countP_cons, List.countP_cons]
      omega

theorem mem_set_of_mem {z : α} (hx : l[n]? = some x) (hz : z ∈ l) : z = x ∨ z ∈ l.set n y := by
  obtain ⟨m, hm⟩ := List.mem_iff_getElem?.1 hz
  by_cases hn : n = m
  · subst hn
    exact .inl (Option.some.inj (hm.symm.trans hx))
  · exact .inr (List.mem_iff_getElem?.2 ⟨m, by rw [List.getElem?_set_ne hn, hm]⟩)

/-- What is drawn once is drawn by one. -/
theorem eq_of_nodup_filterMap {f : α → Option β} {v : β} (h : (l.filterMap f).Nodup) (hx : x ∈ l)
    (hy : y ∈ l) (hfx : f x = some v) (hfy : f y = some v) : x = y := by
  induction l with
  | nil => cases hx
  | cons z l ih =>
    have hfirst {y : α} (hz : f z = some v) (hy : y ∈ l) (hfy : f y = some v) : False := by
      rw [List.filterMap_cons_some hz] at h
      exact (List.nodup_cons.1 h).1 (List.mem_filterMap.2 ⟨y, hy, hfy⟩)
    have htail : (l.filterMap f).Nodup := h.sublist ((List.sublist_cons_self z l).filterMap f)
    rcases List.mem_cons.1 hx with rfl | hx' <;> rcases List.mem_cons.1 hy with rfl | hy'
    · rfl
    · exact (hfirst hfx hy' hfy).elim
    · exact (hfirst hfy hx' hfx).elim
    · exact ih htail hx' hy'

end

namespace World

/-- Uses of an invite that are taken, for good or by the open transaction. -/
def spent (w : World) (id : InviteId) : Nat := w.service.store.pending id + w.admissions id

/-- As many were admitted by an invite as may be. -/
def Full (w : World) (id : InviteId) : Prop := ∃ uses, w.Made id uses ∧ uses ≤ w.admissions id

/-- What holds of a world however its tasks were interleaved. -/
structure Sound (w : World) : Prop where
  plan : w.service.plan = .none
  tasks : ∀ (a : Agent) (t : Task), w.tasks[a]? = some t →
    t.Sound w.Full (w.service.store.holding a)
  holder : ∀ a x, w.service.store.held = some (a, x) → a < w.tasks.length
  ledger : Ledger w.service.tables.invites w.spent w.Made

section

variable {w : World} {a : Agent} {t : Task}

theorem admissions_replace (ht : w.tasks[a]? = some t) (u : Task) (s : Service) (id : InviteId) :
    (w.replace a u s).admissions id + (t.admits id).toNat =
      w.admissions id + (u.admits id).toNat :=
  countP_set ht

theorem made_replace (ht : w.tasks[a]? = some t) {u : Task} (s : Service)
    (hm : t.made? = none ∨ u.made? = t.made?) (id : InviteId) (uses : Int)
    (h : w.Made id uses) : (w.replace a u s).Made id uses := by
  obtain ⟨v, hv, hid⟩ := h
  rcases mem_set_of_mem (y := u) ht hv with rfl | hv
  · rcases hm with hn | he
    · cases hn.symm.trans hid
    · have ha : a < w.tasks.length := (List.getElem?_eq_some_iff.1 ht).1
      exact ⟨u, List.mem_set ha u, he.trans hid⟩
  · exact ⟨v, hv, hid⟩

theorem Full.mono {v : World} (hm : ∀ id uses, w.Made id uses → v.Made id uses)
    (ha : ∀ id, w.admissions id ≤ v.admissions id) (id : InviteId) (h : w.Full id) :
    v.Full id := by
  obtain ⟨uses, hmade, hle⟩ := h
  have := ha id
  exact ⟨uses, hm id uses hmade, by omega⟩

/-- What a step of a task does to the ledger. The invite that the task makes has to be new. -/
theorem Sound.ledger_replace (hw : w.Sound) (ht : w.tasks[a]? = some t) {u : Task} {s : Service}
    (he : t.Effect u w.service.store s.store)
    (hnew : ∀ id uses, t.invite? = some id → t.made? = none → ¬w.Made id uses) :
    Ledger s.tables.invites (w.replace a u s).spent (w.replace a u s).Made ∧
      ∀ id, w.Full id → (w.replace a u s).Full id := by
  have hadm := admissions_replace ht u s
  cases he with
  | @kept spent hb ha hm =>
    have hmade := made_replace ht s (.inr hm)
    have hmore (id : InviteId) :
        (w.replace a u s).admissions id = w.admissions id + spent id := by
      have hsum := hadm id
      rw [ha id] at hsum
      omega
    refine ⟨(hw.ledger.mono hmade).balanced hb hmore, Full.mono hmade fun id => ?_⟩
    rw [hmore]
    omega
  | @made i hh hs hi hn hm hr ha =>
    have hmade := made_replace ht (u := u) s (.inl hn)
    have hsame (id : InviteId) : (w.replace a u s).admissions id = w.admissions id := by
      have hsum := hadm id
      rw [ha id] at hsum
      omega
    have hspent : (w.replace a u s).spent = w.spent := by
      funext id
      rw [World.spent, World.spent, hsame, World.replace, hs]
      rfl
    refine ⟨?_, Full.mono hmade fun id => Nat.le_of_eq (hsame id).symm⟩
    rw [hspent, Service.tables, hs]
    exact hw.ledger.insert (hnew i.id · hi hn) hmade
      ⟨u, List.mem_set (List.getElem?_eq_some_iff.1 ht).1 u, hm⟩ hr

/-- A step of a task keeps the world as it has to be. -/
theorem Sound.stepped (hw : w.Sound) (ht : w.tasks[a]? = some t) {u : Task} {s : Service}
    (hs : t.Stepped w.Full a u w.service s)
    (hnew : ∀ id uses, t.invite? = some id → t.made? = none → ¬w.Made id uses) :
    (w.replace a u s).Sound := by
  obtain ⟨hledger, hf⟩ := hw.ledger_replace ht hs.effect hnew
  refine ⟨hs.plan, fun b v hv => ?_, fun b x hx => ?_, hledger⟩
  · by_cases hab : a = b
    · subst hab
      rw [World.replace, List.getElem?_set_self'] at hv
      obtain ⟨-, -, rfl⟩ := Option.map_eq_some_iff.1 hv
      exact hs.sound.mono hf
    · rw [World.replace, List.getElem?_set_ne hab] at hv
      have hsame : s.store.holding b = w.service.store.holding b := by
        ext x
        rw [Store.holding_eq_some, Store.holding_eq_some, hs.others b x (Ne.symm hab)]
      rw [World.replace, hsame]
      exact (hw.tasks b v hv).mono hf
  · rw [World.replace, List.length_set]
    by_cases hne : b = a
    · rw [hne]
      exact (List.getElem?_eq_some_iff.1 ht).1
    · exact hw.holder b x ((hs.others b x hne).1 hx)

/-- An invite is made by the one task that drew it. -/
theorem not_made (hd : (w.tasks.filterMap Task.invite?).Nodup) (ht : w.tasks[a]? = some t)
    {id : InviteId} (uses : Int) (hi : t.invite? = some id) (hn : t.made? = none) :
    ¬ w.Made id uses := by
  rintro ⟨u, hu, hm⟩
  have hui : u.invite? = some id := Task.invite_of_made hm
  have htu := eq_of_nodup_filterMap hd (List.mem_of_getElem? ht) hu hi hui
  rw [← htu, hn] at hm
  cases hm

theorem made_unique (hd : (w.tasks.filterMap Task.invite?).Nodup) {id : InviteId} {m n : Int}
    (hm : w.Made id m) (hn : w.Made id n) : m = n := by
  obtain ⟨t, ht, hm⟩ := hm
  obtain ⟨u, hu, hn⟩ := hn
  have htu := eq_of_nodup_filterMap hd ht hu (Task.invite_of_made hm) (Task.invite_of_made hn)
  rw [← htu, hm] at hn
  cases hn
  rfl

theorem Sound.started (hw : w.Sound) (o : Operation) (d : Draws) : (w.step (.start o d)).Sound := by
  have hmade (id : InviteId) (uses : Int) (h : w.Made id uses) :
      (w.step (.start o d)).Made id uses := by
    obtain ⟨u, hu, hm⟩ := h
    exact ⟨u, List.mem_append_left _ hu, hm⟩
  have hadm (id : InviteId) : (w.step (.start o d)).admissions id = w.admissions id := by
    simp only [admissions, step, List.countP_append, List.countP_singleton, Task.admits,
      Task.committed, List.contains_nil, Bool.and_false, Bool.false_eq_true, if_false, Nat.add_zero]
  have hf := Full.mono hmade fun id => Nat.le_of_eq (hadm id).symm
  have hspent : (w.step (.start o d)).spent = w.spent := by
    funext id
    rw [World.spent, World.spent, hadm]
    rfl
  refine ⟨hw.plan, fun (b : Nat) u hu => ?_, fun b x hb => ?_, ?_⟩
  · rcases Nat.lt_or_ge b w.tasks.length with hlt | hge
    · rw [step, List.getElem?_append_left hlt] at hu
      exact (hw.tasks b u hu).mono hf
    · rw [step, List.getElem?_append_right hge] at hu
      have hb : b = w.tasks.length := by
        have hlt : b - w.tasks.length < 1 := (List.getElem?_eq_some_iff.1 hu).1
        omega
      subst hb
      rw [Nat.sub_self] at hu
      cases hu
      have hx : w.service.store.holding w.tasks.length = none := by
        cases hx : w.service.store.holding w.tasks.length with
        | none => rfl
        | some x => exact absurd (hw.holder _ x (Store.holding_eq_some.1 hx)) (Nat.lt_irrefl _)
      rw [step, hx]
      exact .start ..
  · have hlen : (w.step (.start o d)).tasks.length = w.tasks.length + 1 := List.length_append
    rw [hlen]
    exact Nat.lt_succ_of_lt (hw.holder b x hb)
  · rw [hspent]
    exact hw.ledger.mono hmade

/-- Every action keeps the world as it has to be. -/
theorem Sound.step (hw : w.Sound) (hd : (w.tasks.filterMap Task.invite?).Nodup) (x : Action) :
    (w.step x).Sound := by
  cases x with
  | start o d => exact hw.started o d
  | move a =>
    refine act_cases hw fun t ht => ?_
    refine hw.stepped ht ((hw.tasks a t ht).move hw.plan fun id i hi hu hp => ?_)
      fun id uses => not_made hd ht uses
    obtain ⟨uses, huses, hbal, -⟩ := hw.ledger.balance id i hi
    have hle : i.remaining ≤ 0 := of_decide_eq_true hu
    rw [World.spent, hp] at hbal
    exact ⟨uses, huses, by omega⟩
  | drop a =>
    refine act_cases hw fun t ht => ?_
    exact hw.stepped ht ((hw.tasks a t ht).drop hw.plan) fun id uses => not_made hd ht uses
  | setClock now => exact ⟨hw.plan, hw.tasks, hw.holder, hw.ledger⟩
  | setFaults tokenWrites commits => exact ⟨hw.plan, hw.tasks, hw.holder, hw.ledger⟩

theorem start_sound (policy : Policy) (timeoutMillis : Nat) (clock : Instant) :
    (start policy timeoutMillis clock).Sound := by
  refine ⟨rfl, fun a t ht => ?_, nofun, nofun, fun id h => absurd h (Nat.lt_irrefl 0)⟩
  cases ht

/-- The world is as it has to be after any actions, if no invite is drawn twice. -/
theorem after_sound (policy : Policy) (timeoutMillis : Nat) (clock : Instant)
    (actions : List Action) (h : (actions.filterMap Action.invite?).Nodup) :
    ((start policy timeoutMillis clock).after actions).Sound := by
  induction actions using List.reverseRecOn with
  | nil => exact start_sound policy timeoutMillis clock
  | append_singleton actions x ih =>
    rw [List.filterMap_append] at h
    have hd := h.sublist (List.sublist_append_left _ _)
    rw [after_concat]
    apply (ih hd).step
    rw [after_invites]
    exact hd

end

end World

end GroupAccess
