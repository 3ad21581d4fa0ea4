import GroupAccess.Store.Basic

namespace GroupAccess.Store

variable {s : Store} {k : Agent} {x : Transaction}

/-- The open transaction, if it is the agent's. -/
def holding (s : Store) (k : Agent) : Option Transaction :=
  match s.held with
  | some (holder, x) => if holder = k then some x else none
  | none => none

theorem holding_eq_some : s.holding k = some x ↔ s.held = some (k, x) := by
  unfold holding
  split
  · rename_i holder y hy
    simp [hy]
  · rename_i hn
    simp [hn]

theorem holding_of_free (h : s.held = none) : s.holding k = none := by rw [holding, h]

/-- An agent without a transaction makes no step in one. -/
theorem within_stranger (h : s.holding k = none) {α : Type}
    (f : Transaction → Tables → Except StoreFailure α × Option Transaction × Tables) :
    s.within k f = none := by
  unfold within
  split
  · rename_i holder y hy
    split
    · subst holder
      rw [holding_eq_some.2 hy] at h
      cases h
    · rfl
  · rfl

/-- An agent without a transaction leaves nothing to take back. -/
theorem abandon_stranger (h : s.holding k = none) : s.abandon k = s := by
  rw [abandon, call, within_stranger h]

theorem call_begin (h : s.held = none) :
    s.call k .begin = some (.ok (), { s with held := some (k, ⟨[], s.failsCommits⟩) }) := by
  rw [call, h]

theorem call_begin_held (h : s.held = some (k, x)) (a : Agent) : s.call a .begin = none := by
  rw [call, h]

theorem within_holder (h : s.held = some (k, x)) {α : Type}
    (f : Transaction → Tables → Except StoreFailure α × Option Transaction × Tables) :
    s.within k f = some ((f x s.tables).1,
      { s with tables := (f x s.tables).2.2, held := (f x s.tables).2.1.map (k, ·) }) := by
  rw [within, h]
  exact if_pos rfl

theorem call_decrement (h : s.held = some (k, x)) {invite : InviteId} {grant : Grant} {t : Tables}
    (hd : s.tables.decrement invite = .ok (grant, t)) :
    s.call k (.decrement invite) = some (.ok grant, { s with
      tables := t
      held := some (k, { x with undo := .decrement invite :: x.undo }) }) := by
  rw [call, within_holder h, Transaction.decrement, hd]
  rfl

theorem call_decrement_error (h : s.held = some (k, x)) {invite : InviteId} {e : StoreFailure}
    (hd : s.tables.decrement invite = .error e) :
    s.call k (.decrement invite) = some (.error e, s) := by
  obtain ⟨t, held, tokens, fails⟩ := s
  cases h
  rw [call, within_holder rfl, Transaction.decrement, hd]
  rfl

theorem call_insertMembership (h : s.held = some (k, x)) {m : Membership} {t : Tables}
    (hm : s.tables.insertMembership m = .ok t) :
    s.call k (.insertMembership m) = some (.ok (), { s with
      tables := t
      held := some (k, { x with undo := .membership m.key :: x.undo }) }) := by
  rw [call, within_holder h, Transaction.insertMembership, hm]
  rfl

theorem call_insertMembership_error (h : s.held = some (k, x)) {m : Membership} {e : StoreFailure}
    (hm : s.tables.insertMembership m = .error e) :
    s.call k (.insertMembership m) = some (.error e, s) := by
  obtain ⟨t, held, tokens, fails⟩ := s
  cases h
  rw [call, within_holder rfl, Transaction.insertMembership, hm]
  rfl

theorem call_commit (h : s.held = some (k, x)) :
    s.call k .commit =
      some ((x.commit s.tables).1, { s with tables := (x.commit s.tables).2, held := none }) := by
  rw [call, within_holder h]
  rfl

theorem call_rollback (h : s.held = some (k, x)) :
    s.call k .rollback =
      some (.ok (), { s with tables := x.rollback s.tables, held := none }) := by
  rw [call, within_holder h]
  rfl

end GroupAccess.Store
