import GroupAccess.Proofs.Store.Answered
import GroupAccess.Proofs.Store.Holding

namespace GroupAccess

theorem Transaction.rollback_invites (x : Transaction) {t : Tables} {id : InviteId} {i : Invite}
    (h : (x.rollback t).invites.get? id = some i) :
    ∃ j, t.invites.get? id = some j ∧ i.remaining = j.remaining + x.undo.count (.decrement id) := by
  obtain ⟨undo, fails⟩ := x
  simp only [rollback] at h ⊢
  induction undo generalizing t with
  | nil => exact ⟨i, h, by simp⟩
  | cons u us ih =>
    obtain ⟨j, hj, hr⟩ := ih h
    cases u with
    | membership key => exact ⟨j, hj, by simpa using hr⟩
    | decrement invite =>
      rw [Undo.apply, Tables.increment, Table.get?_modify] at hj
      by_cases he : id = invite
      · rw [if_pos he] at hj
        obtain ⟨j', hj', rfl⟩ := Option.map_eq_some_iff.1 hj
        refine ⟨j', hj', ?_⟩
        subst he
        rw [List.count_cons_self, hr]
        dsimp only
        omega
      · rw [if_neg he] at hj
        have hne : Undo.decrement invite ≠ .decrement id :=
          fun hu => he (Undo.decrement.inj hu).symm
        exact ⟨j, hj, by rw [hr, List.count_cons_of_ne hne]⟩

namespace Store

variable {s s' : Store} {a k : Agent} {x : Transaction}

/-- Uses of an invite that the open transaction has taken. -/
def pending (s : Store) (id : InviteId) : Nat :=
  match s.held with
  | some (_, x) => x.undo.count (.decrement id)
  | none => 0

theorem pending_of_free (h : s.held = none) (id : InviteId) : s.pending id = 0 := by
  rw [pending, h]

theorem pending_of_held (h : s.held = some (k, x)) (id : InviteId) :
    s.pending id = x.undo.count (.decrement id) := by
  rw [pending, h]

/-- The uses of each invite in a store are all accounted for after a step, which spends some. -/
structure Balanced (s s' : Store) (spent : InviteId → Nat) : Prop where
  rows : ∀ id i', s'.tables.invites.get? id = some i' → ∃ i, s.tables.invites.get? id = some i ∧
    i'.remaining + s'.pending id + spent id = i.remaining + s.pending id ∧
      (0 ≤ i.remaining → 0 ≤ i'.remaining)
  taken : ∀ id, 0 < s'.pending id + spent id →
    0 < s.pending id ∨ ∃ i, s.tables.invites.get? id = some i

namespace Balanced

theorem of_keeps (hi : KeepsInvites s.tables s'.tables) (hp : s'.pending = s.pending) :
    Balanced s s' fun _ => 0 := by
  refine ⟨fun id i h => ⟨i, hi id i h, by rw [hp]; omega, fun h => h⟩, fun id h => ?_⟩
  rw [hp] at h
  exact .inl h

theorem of_beside : Balanced s s fun _ => 0 := of_keeps (.of_eq rfl) rfl

theorem begin (h : s.held = none) (x : Transaction) (hx : x.undo = []) :
    Balanced s { s with held := some (a, x) } fun _ => 0 := by
  refine of_keeps (.of_eq rfl) (funext fun id => ?_)
  rw [pending_of_free h, pending_of_held rfl, hx, List.count_nil]

theorem decrement (h : s.held = some (a, x)) {id : InviteId} {i : Invite}
    (hi : s.tables.invites.get? id = some i) (hu : i.isExhausted = false) :
    Balanced s { s with
      tables := s.tables.takeUse id
      held := some (a, { x with undo := .decrement id :: x.undo }) } fun _ => 0 := by
  have hpos : 0 < i.remaining := by
    simpa [Invite.isExhausted] using hu
  constructor
  · intro id' i' hi'
    obtain ⟨j, hj, rfl⟩ := Tables.takeUse_invites hi'
    refine ⟨j, hj, ?_⟩
    rw [pending_of_held h, pending_of_held rfl]
    by_cases he : id' = id
    · cases he
      cases hi.symm.trans hj
      simp only [if_true, List.count_cons_self]
      omega
    · have hne : Undo.decrement id ≠ .decrement id' := fun h => he (Undo.decrement.inj h).symm
      simp only [if_neg he, List.count_cons_of_ne hne]
      omega
  · intro id' hp
    rw [pending_of_held rfl] at hp
    by_cases he : id' = id
    · cases he
      exact .inr ⟨i, hi⟩
    · have hne : Undo.decrement id ≠ .decrement id' := fun h => he (Undo.decrement.inj h).symm
      rw [List.count_cons_of_ne hne] at hp
      exact .inl (by rwa [pending_of_held h])

theorem insertMembership (h : s.held = some (a, x)) {t : Tables} (m : Membership)
    (ht : t.invites = s.tables.invites) :
    Balanced s { s with
      tables := t
      held := some (a, { x with undo := .membership m.key :: x.undo }) } fun _ => 0 := by
  refine of_keeps (.of_eq ht) (funext fun id => ?_)
  have hne : Undo.membership m.key ≠ .decrement id := nofun
  rw [pending_of_held h, pending_of_held rfl, List.count_cons_of_ne hne]

/-- What a transaction has taken is spent by its commit. -/
theorem commit : Balanced s { s with held := none } s.pending := by
  constructor
  · intro id i hi
    refine ⟨i, hi, ?_, fun h => h⟩
    rw [pending_of_free rfl]
    omega
  · intro id hp
    rw [pending_of_free rfl, Nat.zero_add] at hp
    exact .inl hp

theorem rollback (h : s.held = some (a, x)) :
    Balanced s { s with tables := x.rollback s.tables, held := none } fun _ => 0 := by
  constructor
  · intro id i hi
    obtain ⟨j, hj, hr⟩ := x.rollback_invites hi
    refine ⟨j, hj, ?_, ?_⟩
    · rw [pending_of_free rfl, pending_of_held h, hr]
      omega
    · omega
  · intro id hp
    rw [pending_of_free rfl] at hp
    omega

end Balanced

/-- A call of an agent without a transaction, which opens none and makes no invite. -/
theorem call_balanced {c : Call} {r : Except StoreFailure c.Result} (hh : s.holding a = none)
    (ht : c.method.transacts = false) (hm : c.method ≠ .createInvite)
    (hc : s.call a c = some (r, s')) : Balanced s s' (fun _ => 0) ∧ s'.holding a = none := by
  cases call_answered hc with
  | beside => exact ⟨.of_beside, hh⟩
  | atomic _ hn t hi => exact ⟨.of_keeps (hi hm) rfl, holding_of_free hn⟩
  | begin hb => rw [hb] at ht; cases ht
  | within ht' => rw [ht'] at ht; cases ht

/-- An agent that goes away takes back what it had begun. -/
theorem abandon_balanced (s : Store) (a : Agent) :
    Balanced s (s.abandon a) (fun _ => 0) ∧ (s.abandon a).holding a = none := by
  cases hh : s.holding a with
  | none =>
    rw [abandon_stranger hh]
    exact ⟨.of_beside, hh⟩
  | some x =>
    have hx := holding_eq_some.1 hh
    rw [abandon, call_rollback hx]
    exact ⟨.rollback hx, holding_of_free rfl⟩

end Store

/-- The uses that the invites have left are those they were made with, less the uses that are spent.
Nothing is spent of an invite that was not made. -/
structure Ledger (rows : Table InviteId Invite) (spent : InviteId → Nat)
    (made : InviteId → Int → Prop) : Prop where
  balance : ∀ id i, rows.get? id = some i →
    ∃ uses, made id uses ∧ i.remaining + spent id = uses ∧ 0 ≤ i.remaining
  used : ∀ id, 0 < spent id → ∃ uses, made id uses

namespace Ledger

variable {rows : Table InviteId Invite} {spent : InviteId → Nat}
  {made made' : InviteId → Int → Prop}

theorem mono (h : Ledger rows spent made) (hm : ∀ id uses, made id uses → made' id uses) :
    Ledger rows spent made' := by
  constructor
  · intro id i hi
    obtain ⟨uses, huses, hbal⟩ := h.balance id i hi
    exact ⟨uses, hm id uses huses, hbal⟩
  · intro id hs
    obtain ⟨uses, huses⟩ := h.used id hs
    exact ⟨uses, hm id uses huses⟩

/-- A step that is balanced keeps the ledger; what it spends is spent for good. -/
theorem balanced {s s' : Store} {m n : InviteId → Nat}
    (h : Ledger s.tables.invites (fun id => s.pending id + n id) made) (hb : s.Balanced s' spent)
    (hm : ∀ id, m id = n id + spent id) :
    Ledger s'.tables.invites (fun id => s'.pending id + m id) made := by
  constructor
  · intro id i hi
    obtain ⟨j, hj, hsum, hpos⟩ := hb.rows id i hi
    obtain ⟨uses, huses, hbal, hnn⟩ := h.balance id j hj
    refine ⟨uses, huses, ?_, hpos hnn⟩
    have hn := hm id
    omega
  · intro id hs
    have hn := hm id
    by_cases hz : 0 < s.pending id + n id
    · exact h.used id hz
    · rcases hb.taken id (by omega) with hp | ⟨i, hi⟩
      · omega
      · obtain ⟨uses, huses, -⟩ := h.balance id i hi
        exact ⟨uses, huses⟩

/-- An invite that was not made before has all its uses. -/
theorem insert (h : Ledger rows spent made) {i : Invite} (hn : ∀ uses, ¬made i.id uses)
    (hm : ∀ id uses, made id uses → made' id uses) (hi : made' i.id i.remaining)
    (hr : 0 < i.remaining) : Ledger (rows.insert i.id i) spent made' := by
  refine ⟨fun id j hj => ?_, (h.mono hm).used⟩
  rcases Table.get?_insert_cases hj with ⟨rfl, rfl⟩ | hj
  · have hz : spent j.id = 0 := by
      by_cases hz : 0 < spent j.id
      · obtain ⟨uses, huses⟩ := h.used j.id hz
        exact absurd huses (hn uses)
      · omega
    exact ⟨j.remaining, hi, by omega, by omega⟩
  · exact (h.mono hm).balance id j hj

end Ledger

end GroupAccess
