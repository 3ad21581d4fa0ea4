import GroupAccess.Proofs.Interleaving.Advance
import GroupAccess.Proofs.Interleaving.Task

namespace GroupAccess

open Program

variable {s s' : Store} {a : Agent}

/-- The uses that an answer spends: one of the invite, if it is to a commit. -/
def spentBy (id : InviteId) (answer : Method × Bool) (id' : InviteId) : Nat :=
  if answer = (.commit, true) ∧ id' = id then 1 else 0

/-- A redemption admits when its commit succeeds. -/
theorem Task.admits_redeem {id : InviteId} {user : UserId} {d : Draws}
    {rest rest' : Option (Program Membership)} {calls : List (Method × Bool)}
    {answer : Method × Bool} (h : calls.contains (.commit, true) = false) (id' : InviteId) :
    (admits ⟨.redeem id user, d, rest', answer :: calls⟩ id').toNat =
      (admits ⟨.redeem id user, d, rest, calls⟩ id').toNat + spentBy id answer id' := by
  by_cases ha : answer = (.commit, true)
  · by_cases he : id' = id
    · simp only [admits, committed, h, ha, List.contains_cons]
      simp [redeems, spentBy, he]
    · have hne : id ≠ id' := fun h => he h.symm
      simp [admits, redeems, spentBy, he, hne]
  · rw [admits_answer ha, spentBy, if_neg fun h => ha h.1]
    rfl

theorem Store.Balanced.unspent {id : InviteId} {answer : Method × Bool}
    (hb : s.Balanced s' fun _ => 0) (h : answer ≠ (.commit, true)) :
    s.Balanced s' (spentBy id answer) := by
  have hz : spentBy id answer = fun _ => 0 := funext fun _ => if_neg fun hn => h hn.1
  rw [hz]
  exact hb

/-- A redemption that has come to its commit has taken one use. -/
theorem pending_entered {key : UserId × GroupId} {id : InviteId} {fails : Bool}
    (hh : s.held = some (a, ⟨[.membership key, .decrement id], fails⟩)) :
    s.pending = spentBy id (.commit, true) := by
  funext id'
  have hm : Undo.membership key ≠ .decrement id' := nofun
  rw [Store.pending_of_held hh, spentBy, List.count_cons_of_ne hm]
  by_cases he : id' = id
  · rw [if_pos ⟨rfl, he⟩, he, List.count_singleton_self]
  · have hd : Undo.decrement id ≠ .decrement id' := fun h => he (Undo.decrement.inj h).symm
    rw [if_neg fun h => he h.2, List.count_cons_of_ne hd, List.count_nil]

/-- A redemption stays one after each answer, and spends a use of its invite when it commits. -/
theorem Redeeming.answered {full : Prop} {id : InviteId} {user : UserId} {p : Program Membership}
    {b : Bool} (hp : Redeeming full id user (s.holding a) p b) {c : Call}
    {next : Except StoreFailure c.Result → Program Membership} (hs : p = .call c next)
    {r : Except StoreFailure c.Result} (hc : s.call a c = some (r, s'))
    (hfull : ∀ i, s.tables.invites.get? id = some i → i.isExhausted = true → s.pending id = 0 →
      full) :
    Redeeming full id user (s'.holding a) (next r).settled
        ((Method.commit, true) == (c.method, r.isOk) || b) ∧
      s.Balanced s' (spentBy id (c.method, r.isOk)) := by
  have hkeeps {x : Transaction} {t : Tables} : Store.holding { s with
      tables := t, held := some (a, x) } a = some x := Store.holding_eq_some.2 rfl
  have hends {t : Tables} : Store.holding { s with tables := t, held := none } a = none :=
    Store.holding_of_free rfl
  generalize hx : s.holding a = x at hp
  cases hp with
  | waiting =>
    rw [Invites.redeem_eq] at hs
    cases hs
    cases hh : s.held with
    | some y =>
      rw [Store.call_begin_held hh] at hc
      cases hc
    | none =>
      rw [Store.call_begin hh] at hc
      cases hc
      rw [hkeeps]
      exact ⟨.opened, .unspent (.begin hh _ rfl) nofun⟩
  | opened =>
    have hh := Store.holding_eq_some.1 hx
    cases hs
    cases hi : s.tables.invites.get? id with
    | none =>
      rw [Store.call_decrement_error hh (Tables.decrement_missing hi)] at hc
      cases hc
      rw [hx]
      exact ⟨.refused nofun, .unspent .of_beside nofun⟩
    | some i =>
      cases hu : i.isExhausted with
      | true =>
        rw [Store.call_decrement_error hh (Tables.decrement_exhausted hi hu)] at hc
        cases hc
        have hf := hfull i hi hu (Store.pending_of_held hh id)
        rw [hx]
        exact ⟨.refused fun _ => hf, .unspent .of_beside nofun⟩
      | false =>
        rw [Store.call_decrement hh (Tables.decrement_usable hi hu)] at hc
        cases hc
        rw [hkeeps]
        exact ⟨.taken, .unspent (.decrement hh hi hu) nofun⟩
  | @taken fails m =>
    have hh := Store.holding_eq_some.1 hx
    cases hs
    cases hm : s.tables.memberships.contains m.key with
    | true =>
      rw [Store.call_insertMembership_error hh (Tables.insertMembership_taken hm)] at hc
      cases hc
      rw [hx]
      exact ⟨.refused nofun, .unspent .of_beside nofun⟩
    | false =>
      rw [Store.call_insertMembership hh (Tables.insertMembership_free hm)] at hc
      cases hc
      rw [hkeeps]
      exact ⟨.entered, .unspent (.insertMembership hh m rfl) nofun⟩
  | @entered fails m =>
    have hh := Store.holding_eq_some.1 hx
    cases hs
    rw [Store.call_commit hh] at hc
    cases fails with
    | true =>
      cases hc
      rw [hends]
      exact ⟨.ended nofun, .unspent (.rollback hh) nofun⟩
    | false =>
      cases hc
      have hb := Store.Balanced.commit (s := s)
      rw [pending_entered hh] at hb
      rw [hends]
      exact ⟨.ended nofun, hb⟩
  | refused he =>
    have hh := Store.holding_eq_some.1 hx
    cases hs
    rw [Store.call_rollback hh] at hc
    cases hc
    rw [hends]
    exact ⟨.ended fun h => he (Except.error.inj h), .unspent (.rollback hh) nofun⟩
  | ended he => cases hs

/-- What a step of a task does to the invites: their uses stay accounted for, or one is made. -/
inductive Task.Effect (t t' : Task) (s s' : Store) : Prop
  | kept {spent : InviteId → Nat} (hb : s.Balanced s' spent)
      (ha : ∀ id, (t'.admits id).toNat = (t.admits id).toNat + spent id) (hm : t'.made? = t.made?)
  | made {i : Invite} (hh : s.held = none)
      (hs : s' = { s with tables := s.tables.createInvite i }) (hi : t.invite? = some i.id)
      (hn : t.made? = none) (hm : t'.made? = some (i.id, i.remaining)) (hr : 0 < i.remaining)
      (ha : ∀ id, t'.admits id = t.admits id)

/-- A step after which the task is in one of its states, and all others are where they were. -/
structure Task.Stepped (full : InviteId → Prop) (a : Agent) (t t' : Task) (s s' : Service) :
    Prop where
  plan : s'.plan = .none
  sound : t'.Sound full (s'.store.holding a)
  others : ∀ b x, b ≠ a → (s'.store.held = some (b, x) ↔ s.store.held = some (b, x))
  effect : t.Effect t' s.store s'.store

namespace Task.Sound

variable {full : InviteId → Prop} {x : Option Transaction}

theorem settled {o : Operation} {d : Draws} {p : Program o.Result} {calls : List (Method × Bool)}
    (h : Task.Sound full x ⟨o, d, some p, calls⟩) :
    Task.Sound full x ⟨o, d, some p.settled, calls⟩ := by
  cases h with
  | plain ho hp => exact plain ho hp.settled
  | making hp hc => exact making hp.settled hc
  | redeeming hp =>
    rw [hp.settled_eq]
    exact redeeming hp

/-- The state after an answer, with the effect of the answer on the invites. -/
theorem answered (hx : s.holding a = x) {o : Operation} {d : Draws} {p : Program o.Result}
    {calls : List (Method × Bool)} (ht : Task.Sound full x ⟨o, d, some p, calls⟩) {c : Call}
    {next : Except StoreFailure c.Result → Program o.Result} (hs : p.settled = .call c next)
    {r : Except StoreFailure c.Result} (hc : s.call a c = some (r, s'))
    (hfull : ∀ id i, s.tables.invites.get? id = some i → i.isExhausted = true →
      s.pending id = 0 → full id) :
    Task.Sound full (s'.holding a) ⟨o, d, some (next r).settled, (c.method, r.isOk) :: calls⟩ ∧
      Task.Effect ⟨o, d, some p, calls⟩
        ⟨o, d, some (next r).settled, (c.method, r.isOk) :: calls⟩ s s' := by
  cases ht with
  | plain ho hp =>
    have hp := hp.settled
    rw [hs] at hp
    cases hp with
    | call hplain hn =>
      obtain ⟨hb, hh⟩ := Store.call_balanced hx hplain.1 hplain.2 hc
      rw [hh]
      refine ⟨plain ho (hn r).settled, .kept hb (fun id => ?_) ?_⟩
      · rw [admits_answer (hplain.ne_commit _)]
        rfl
      · exact made_answer (hplain.ne_createInvite _)
  | making hp hm =>
    have hp := hp.settled
    rw [hs] at hp
    cases hp with
    | call hplain hn =>
      obtain ⟨hb, hh⟩ := Store.call_balanced hx hplain.1 hplain.2 hc
      rw [hh]
      refine ⟨making (hn r).settled ?_, .kept hb (fun id => rfl) ?_⟩
      · have hne := (hplain.ne_createInvite r.isOk).symm
        rw [List.contains_cons, hm, Bool.or_false]
        exact beq_false_of_ne hne
      · exact made_answer (hplain.ne_createInvite _)
    | make hid hr hu hdone =>
      obtain ⟨hh, rfl, hs'⟩ := Store.call_createInvite hc
      obtain ⟨e, he⟩ := hdone (.ok ())
      have hx' : s'.holding a = none := by
        rw [hs']
        exact hx
      rw [he, hx']
      refine ⟨plain nofun (.done e), .made hh hs' ?_ ?_ ?_ ?_ fun id => rfl⟩
      · rw [hid]
        rfl
      · exact if_neg (Bool.eq_false_iff.1 hm)
      · rw [hid, hr]
        rfl
      · rwa [hr]
  | redeeming hp =>
    subst hx
    rw [hp.settled_eq] at hs
    cases hs
    obtain ⟨hp', hb⟩ := hp.answered rfl hc (hfull _)
    refine ⟨redeeming ?_, .kept hb (fun id' => ?_) rfl⟩
    · rwa [List.contains_cons]
    · exact admits_redeem (hp.uncommitted nofun) id'

theorem move {t : Task} {s : Service} (hp : s.plan = .none) (ht : t.Sound full (s.store.holding a))
    (hfull : ∀ id i, s.tables.invites.get? id = some i → i.isExhausted = true →
      s.store.pending id = 0 → full id) :
    t.Stepped full a (t.move a s).1 s (t.move a s).2 := by
  obtain ⟨o, d, rest, calls⟩ := t
  cases rest with
  | none => exact ⟨hp, ht, fun b x _ => Iff.rfl, .kept .of_beside (fun id => rfl) rfl⟩
  | some p =>
    obtain ⟨k, hk | ⟨c, next, r, store, hs, hc, hk⟩⟩ := move_cases d calls hp a p
    · rw [hk]
      exact ⟨hp, ht.settled, fun b x _ => Iff.rfl, .kept .of_beside (fun id => rfl) rfl⟩
    · rw [hk]
      obtain ⟨ht', he⟩ := ht.answered rfl hs hc hfull
      exact ⟨hp, ht', fun b x hb => Store.call_others hc hb, he⟩

theorem drop {t : Task} {s : Service} (hp : s.plan = .none)
    (ht : t.Sound full (s.store.holding a)) :
    t.Stepped full a (t.drop a s).1 s (t.drop a s).2 := by
  obtain ⟨o, d, rest, calls⟩ := t
  have hsame : Task.Stepped full a ⟨o, d, rest, calls⟩ ⟨o, d, rest, calls⟩ s s :=
    ⟨hp, ht, fun b x _ => Iff.rfl, .kept .of_beside (fun id => rfl) rfl⟩
  -- What is not at its end has not committed, and takes back what it wrote.
  have hdrop (p : Program o.Result) (hr : rest = some p) (hd : ∀ r, p ≠ .done r) :
      Task.Stepped full a ⟨o, d, rest, calls⟩ ⟨o, d, none, calls⟩ s
        { s with store := s.store.abandon a } := by
    obtain ⟨hb, hx⟩ := s.store.abandon_balanced a
    refine ⟨hp, ?_, fun b x hne => Store.abandon_others hne, .kept hb (fun id => rfl) rfl⟩
    rw [hx]
    refine dropped fun id user ho => ?_
    subst ho hr
    generalize s.store.holding a = x at ht
    cases ht with
    | plain ho => exact absurd rfl (ho id user)
    | redeeming hp => exact hp.uncommitted hd
  cases rest with
  | none => exact hsame
  | some p =>
    cases p with
    | done r => exact hsame
    | count e next => exact hdrop _ rfl nofun
    | call c next => exact hdrop _ rfl nofun

end Task.Sound

end GroupAccess
