import GroupAccess.Proofs.Interleaving.Entry

namespace GroupAccess

/-- If no invite is drawn twice, then in every world that is reached

* while no transaction is open, each invite has the uses it was made with, less one for each
  redemption of it that was committed, and no less than none;
* the redemptions that were committed are those that succeeded;
* an invite is said to be exhausted only when all its uses were taken by commits;
* a redemption that opens its transaction while a use is left, its user is not a member and commits
  do not fail succeeds with its third call more, if it is not dropped. -/
theorem invites_conserved (policy : Policy) (timeoutMillis : Nat) (clock : Instant)
    (actions : List Action) (h : (actions.filterMap Action.invite?).Nodup) :
    let w := (World.start policy timeoutMillis clock).after actions
    (w.service.store.held = none → ∀ id i, w.service.tables.invites.get? id = some i →
      ∃ uses, w.Made id uses ∧ i.remaining = uses - w.admissions id ∧ 0 ≤ i.remaining) ∧
    (∀ t ∈ w.tasks, ∀ id, t.redeems id = true → (t.committed = true ↔ t.succeeded = true)) ∧
    (∀ t ∈ w.tasks, ∀ id, t.redeems id = true → t.refusal? = some .inviteExhausted →
      ∃ uses, w.Made id uses ∧ uses ≤ w.admissions id) ∧
    ∀ (a : Agent) (t : Task) (id : InviteId) (user : UserId) (i : Invite) (uses : Int),
      w.tasks[a]? = some t → t.operation = .redeem id user → w.Opens a →
      w.service.store.failsCommits = false → w.service.tables.invites.get? id = some i →
      w.service.tables.memberships.contains (user, i.group) = false →
      w.Made id uses → w.admissions id < uses →
      ∀ later, .drop a ∉ later → 3 ≤ later.countP (fun x => x.moves a) →
        ∃ u, ((w.step (.move a)).after later).tasks[a]? = some u ∧ u.succeeded = true := by
  intro w
  have hw : w.Sound := World.after_sound policy timeoutMillis clock actions h
  have hd : (w.tasks.filterMap Task.invite?).Nodup := by
    rw [World.after_invites]
    exact h
  have hstate (t : Task) (ht : t ∈ w.tasks) : ∃ x, t.Sound w.Full x := by
    obtain ⟨a, ha⟩ := List.mem_iff_getElem?.1 ht
    exact ⟨_, hw.tasks a t ha⟩
  refine ⟨fun hh id i hi => ?_, fun t ht id hr => ?_, fun t ht id hr he => ?_, ?_⟩
  · obtain ⟨uses, hm, hbal, hnn⟩ := hw.ledger.balance id i hi
    rw [World.spent, Store.pending_of_free hh] at hbal
    exact ⟨uses, hm, by omega, hnn⟩
  · obtain ⟨x, hx⟩ := hstate t ht
    rw [hx.committed_eq hr]
  · obtain ⟨x, hx⟩ := hstate t ht
    exact hx.full_of_exhausted hr he
  · intro a t id user i uses ht ho hl hf hi hm hmade hroom later hdrop hcount
    obtain ⟨uses', hmade', hbal, -⟩ := hw.ledger.balance id i hi
    cases World.made_unique hd hmade hmade'
    rw [World.spent, Store.pending_of_free hl.1] at hbal
    have hu : i.isExhausted = false := decide_eq_false (by omega)
    have he := (hw.enters ht ho hl hf hi hu hm).after hdrop
    rw [Nat.sub_eq_zero_of_le hcount] at he
    exact he.succeeded

open Sample in
/-- While a guest waits, a stranger is dropped; the guest takes the use, and the next comes too
late. -/
theorem invites_conserved_sample :
    (∃ i uses, (world.after prelude).service.tables.invites.get? invite = some i ∧
      (world.after prelude).Made invite uses ∧
      i.remaining = uses - (world.after prelude).admissions invite ∧ 0 ≤ i.remaining) ∧
    (∃ u, (((world.after prelude).step (.move 3)).after sequel).tasks[3]? = some u ∧
      u.succeeded = true) ∧
    (∃ t ∈ (world.after course).tasks, t.redeems invite = true ∧
      t.refusal? = some .inviteExhausted) ∧
    ∃ uses, (world.after course).Made invite uses ∧
      uses ≤ (world.after course).admissions invite := by
  obtain ⟨hfree, -, -, henter⟩ := invites_conserved policy 5000 clock prelude (by decide)
  obtain ⟨-, -, hfull, -⟩ := invites_conserved policy 5000 clock course (by decide)
  have hheld : (world.after prelude).service.store.held = none := by decide +kernel
  have hopens : (world.after prelude).Opens 3 := ⟨hheld, by decide +kernel⟩
  have hlate : ∃ t ∈ (world.after course).tasks, t.redeems invite = true ∧
      t.refusal? = some .inviteExhausted := by decide +kernel
  obtain ⟨i, hi, hm⟩ : ∃ i, (world.after prelude).service.tables.invites.get? invite = some i ∧
      (world.after prelude).service.tables.memberships.contains (guest, i.group) = false :=
    ⟨_, rfl, by decide +kernel⟩
  have hmade : (world.after prelude).Made invite 1 := by
    unfold World.Made
    decide +kernel
  obtain ⟨uses, hbalance⟩ := hfree hheld invite i hi
  refine ⟨⟨i, uses, hi, hbalance⟩, ?_, hlate, ?_⟩
  · exact henter 3 _ invite guest i 1 rfl rfl hopens (by decide +kernel) hi hm hmade
      (by decide +kernel) sequel (by simp [sequel]) (by decide)
  · obtain ⟨t, ht, hr, he⟩ := hlate
    exact hfull t ht invite hr he

end GroupAccess
