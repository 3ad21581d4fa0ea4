import GroupAccess.Proofs.Interleaving.Validity

namespace GroupAccess

namespace Tables

/-- What a redemption that is committed answers and leaves, by what the tables have. -/
inductive Redemption (t : Tables) (invite : InviteId) (user : UserId) :
    Except Refusal Membership → Tables → Prop
  | missing (hi : t.invites.get? invite = none) :
      Redemption t invite user (.error .inviteNotFound) t
  | exhausted {i : Invite} (hi : t.invites.get? invite = some i) (hu : i.remaining ≤ 0) :
      Redemption t invite user (.error .inviteExhausted) t
  | member {i : Invite} (hi : t.invites.get? invite = some i) (hu : 0 < i.remaining)
      (hm : t.memberships.contains (user, i.group) = true) :
      Redemption t invite user (.error .alreadyInGroup) t
  | admitted {i : Invite} (hi : t.invites.get? invite = some i) (hu : 0 < i.remaining)
      (hm : t.memberships.contains (user, i.group) = false) :
      Redemption t invite user (.ok { user, group := i.group, role := i.role })
        (t.admitted invite { user, group := i.group, role := i.role })

theorem redemption (t : Tables) (invite : InviteId) (user : UserId) :
    t.Redemption invite user (t.redeemed false invite user).1 (t.redeemed false invite user).2 := by
  cases hi : t.invites.get? invite with
  | none =>
    rw [redeemed_missing hi]
    exact .missing hi
  | some i =>
    cases hu : i.isExhausted with
    | true =>
      rw [redeemed_exhausted hi hu]
      exact .exhausted hi (of_decide_eq_true hu)
    | false =>
      have hpos : 0 < i.remaining := Int.not_le.1 (of_decide_eq_false hu)
      cases hm : t.memberships.contains (user, i.group) with
      | true =>
        rw [redeemed_member hi hu hm]
        exact .member hi hpos hm
      | false =>
        rw [redeemed_admitted hi hu hm]
        exact .admitted hi hpos hm

namespace Redemption

variable {t t' : Tables} {invite : InviteId} {user : UserId} {r : Except Refusal Membership}

theorem notFound_iff (h : t.Redemption invite user r t') :
    r = .error .inviteNotFound ↔ t.invites.get? invite = none := by
  cases h with
  | missing hi => simp [hi]
  | exhausted hi => simp [hi]
  | member hi => simp [hi]
  | admitted hi => simp [hi]

/-- That a use is left is asked first, also of a member. -/
theorem exhausted_iff (h : t.Redemption invite user r t') (hv : t.Valid) :
    r = .error .inviteExhausted ↔
      ∃ i, t.invites.get? invite = some i ∧ i.remaining = 0 := by
  cases h with
  | missing hi => simp [hi]
  | @exhausted i hi hu =>
    have huses := hv.uses invite i hi
    have hzero : i.remaining = 0 := by omega
    simp [hi, hzero]
  | @member i hi hu =>
    have hne : i.remaining ≠ 0 := by omega
    simp [hi, hne]
  | @admitted i hi hu =>
    have hne : i.remaining ≠ 0 := by omega
    simp [hi, hne]

theorem alreadyInGroup_iff (h : t.Redemption invite user r t') :
    r = .error .alreadyInGroup ↔ ∃ i, t.invites.get? invite = some i ∧ 0 < i.remaining ∧
      t.memberships.contains (user, i.group) = true := by
  cases h with
  | missing hi => simp [hi]
  | @exhausted i hi hu =>
    have hn : ¬0 < i.remaining := by omega
    simp [hi, hn]
  | member hi hu hm => simp [hi, hu, hm]
  | admitted hi hu hm => simp [hi, hm]

theorem ok_iff (h : t.Redemption invite user r t') (m : Membership) :
    r = .ok m ↔ ∃ i, t.invites.get? invite = some i ∧ 0 < i.remaining ∧
      t.memberships.contains (user, i.group) = false ∧ m = ⟨user, i.group, i.role, false⟩ := by
  cases h with
  | missing hi => simp [hi]
  | @exhausted i hi hu =>
    have hn : ¬0 < i.remaining := by omega
    simp [hi, hn]
  | member hi hu hm =>
    constructor
    · rintro ⟨⟩
    · rintro ⟨j, hj, -, hn, -⟩
      cases hi.symm.trans hj
      rw [hm] at hn
      cases hn
  | @admitted i hi hu hm =>
    constructor
    · rintro ⟨⟩
      exact ⟨i, hi, hu, hm, rfl⟩
    · rintro ⟨j, hj, -, -, rfl⟩
      cases hi.symm.trans hj
      rfl

theorem error_cases (h : t.Redemption invite user r t') {e : Refusal} (he : r = .error e) :
    (e = .inviteNotFound ∨ e = .inviteExhausted ∨ e = .alreadyInGroup) ∧ t' = t := by
  subst he
  cases h with
  | missing => exact ⟨.inl rfl, rfl⟩
  | exhausted => exact ⟨.inr (.inl rfl), rfl⟩
  | member => exact ⟨.inr (.inr rfl), rfl⟩

/-- Whoever is admitted takes a use and becomes a member, and that is all. -/
theorem written (h : t.Redemption invite user r t') {m : Membership} (hm : r = .ok m) :
    t' = { t with invites := t'.invites, memberships := t'.memberships } ∧
      (∀ id, t'.invites.get? id = if id = invite
        then (t.invites.get? id).map fun i => { i with remaining := i.remaining - 1 }
        else t.invites.get? id) ∧
      ∀ k, t'.memberships.get? k = if k = (user, m.group) then some m
        else t.memberships.get? k := by
  subst hm
  cases h with
  | @admitted i hi hu hm =>
    refine ⟨rfl, fun id => ?_, fun k => ?_⟩
    · exact Table.get?_modify ..
    · exact Table.get?_insert ..

end Redemption

theorem inviteUsable_iff {t : Tables} {invite : InviteId} {group : GroupId} :
    t.inviteUsable invite group = true ↔
      ∃ i, t.invites.get? invite = some i ∧ i.group = group ∧ 0 < i.remaining := by
  unfold inviteUsable
  cases hi : t.invites.get? invite with
  | none => simp
  | some i => simp [Invite.isExhausted]

/-- Whoever is no member of a group is admitted to it by just the usable invites. -/
theorem Redemption.usable_iff {t t' : Tables} {invite : InviteId} {user : UserId}
    {r : Except Refusal Membership} (h : t.Redemption invite user r t') {group : GroupId}
    (hn : t.memberships.contains (user, group) = false) :
    t.inviteUsable invite group = true ↔ ∃ m, r = .ok m ∧ m.group = group := by
  rw [inviteUsable_iff]
  constructor
  · rintro ⟨i, hi, rfl, hu⟩
    exact ⟨⟨user, i.group, i.role, false⟩, (h.ok_iff _).2 ⟨i, hi, hu, hn, rfl⟩, rfl⟩
  · rintro ⟨m, hm, hg⟩
    obtain ⟨i, hi, hu, -, rfl⟩ := (h.ok_iff m).1 hm
    exact ⟨i, hi, hg, hu⟩

end Tables

namespace Service.Idle

variable {s : Service}

theorem perform_redeem (h : s.Idle) (hf : s.store.failsCommits = false) (invite : InviteId)
    (user : UserId) (d : Draws) :
    s.tables.Redemption invite user (s.perform (.redeem invite user) d).1
      (s.step (.perform (.redeem invite user) d)).tables := by
  obtain ⟨c, hr⟩ := h.run_redeemed (k := worker) invite user
  rw [hf] at hr
  have hp : s.perform (.redeem invite user) d = _ := perform_eq hr
  rw [Service.step, hp]
  exact s.tables.redemption invite user

theorem perform_inviteUsable (h : s.Idle) (invite : InviteId) (group : GroupId) (d : Draws) :
    s.perform (.inviteUsable invite group) d =
      (.ok (s.tables.inviteUsable invite group), s.count (.operation "invite_exists")) :=
  perform_eq (h.run_ask (h.read fun t => t.inviteUsable invite group))

end Service.Idle

/-- In every state that operations lead to, when no transaction is open and commits do not fail, a
redemption

* is refused with that there is no invite if and only if there is none;
* is refused with that no use is left if and only if the invite is there and has none, whether the
  user is a member or not;
* is refused with that the user is in the group if and only if the invite has a use left and the
  user is a member of its group;
* succeeds in all other cases, with the group and the role of the invite, and not as administrator;
* changes nothing if it is refused; else the invite has one use less, there is the one membership
  more, and all the rest is as it was.

For a user who is not a member of a group, an invite is found to lead there and to have uses left if
and only if its redemption, carried out next, admits the user to that group. -/
theorem redemption_exact (policy : Policy) (timeoutMillis : Nat) (clock : Instant) (s : Service)
    (hr : s.Reached policy timeoutMillis clock) (hs : s.store.held = none)
    (hf : s.store.failsCommits = false) (invite : InviteId) (user : UserId) (d : Draws) :
    let t := s.tables
    let r := (s.perform (.redeem invite user) d).1
    let t' := (s.step (.perform (.redeem invite user) d)).tables
    (r = .error .inviteNotFound ↔ t.invites.get? invite = none) ∧
      (r = .error .inviteExhausted ↔
        ∃ i, t.invites.get? invite = some i ∧ i.remaining = 0) ∧
      (r = .error .alreadyInGroup ↔ ∃ i, t.invites.get? invite = some i ∧ 0 < i.remaining ∧
        t.memberships.contains (user, i.group) = true) ∧
      (∀ m, r = .ok m ↔ ∃ i, t.invites.get? invite = some i ∧ 0 < i.remaining ∧
        t.memberships.contains (user, i.group) = false ∧
        m = ⟨user, i.group, i.role, false⟩) ∧
      (∀ e, r = .error e →
        (e = .inviteNotFound ∨ e = .inviteExhausted ∨ e = .alreadyInGroup) ∧ t' = t) ∧
      (∀ m, r = .ok m →
        t' = { t with invites := t'.invites, memberships := t'.memberships } ∧
        (∀ id, t'.invites.get? id = if id = invite
          then (t.invites.get? id).map fun i => { i with remaining := i.remaining - 1 }
          else t.invites.get? id) ∧
        ∀ k, t'.memberships.get? k = if k = (user, m.group) then some m
          else t.memberships.get? k) ∧
      ∀ group e, t.memberships.contains (user, group) = false →
        ∃ usable, (s.perform (.inviteUsable invite group) e).1 = .ok usable ∧
          (usable = true ↔ ∃ m, ((s.perform (.inviteUsable invite group) e).2.perform
            (.redeem invite user) d).1 = .ok m ∧ m.group = group) := by
  intro t r t'
  have hi : s.Idle := hr.idle hs
  have hred : t.Redemption invite user r t' := hi.perform_redeem hf invite user d
  refine ⟨hred.notFound_iff, hred.exhausted_iff hr.valid, hred.alreadyInGroup_iff, hred.ok_iff,
    fun e => hred.error_cases, fun m => hred.written, fun group e hn => ?_⟩
  -- To look does not change the tables, so that the redemption finds what was looked at.
  have hnext := (hi.count (.operation "invite_exists")).perform_redeem hf invite user d
  rw [hi.perform_inviteUsable invite group e]
  exact ⟨t.inviteUsable invite group, rfl, hnext.usable_iff hn⟩

open Sample in
/-- The invite of the sample has one use left: the stranger is admitted, the guest is in the group
already, and then no use is left, not even for a member. -/
theorem redemption_exact_sample :
    let s := service.after steps
    s.Reached policy 5000 clock ∧ s.store.held = none ∧ s.store.failsCommits = false ∧
      (s.perform (.redeem invite stranger) (draws 4)).1 =
        .ok ⟨stranger, group, ⟨uuid 2⟩, false⟩ ∧
      (s.perform (.redeem invite guest) (draws 4)).1 = .error .alreadyInGroup ∧
      ((s.perform (.redeem invite stranger) (draws 4)).2.perform (.redeem invite guest)
        (draws 5)).1 = .error .inviteExhausted := by
  intro s
  have hi : s.tables.invites.get? invite = some ⟨invite, group, ⟨uuid 2⟩, 1, owner⟩ := rfl
  have hstranger : s.tables.memberships.contains (stranger, group) = false := by decide +kernel
  have hguest : s.tables.memberships.contains (guest, group) = true := by decide +kernel
  have hexact (user : UserId) :=
    redemption_exact policy 5000 clock s (.session steps) rfl rfl invite user (draws 4)
  refine ⟨.session steps, rfl, rfl, ?_, ?_, ?_⟩
  · exact ((hexact stranger).2.2.2.1 _).2 ⟨_, hi, by decide, hstranger, rfl⟩
  · exact (hexact guest).2.2.1.2 ⟨_, hi, by decide, hguest⟩
  · let s' := service.after (steps ++ [.perform (.redeem invite stranger) (draws 4)])
    have hlast := redemption_exact policy 5000 clock s' (.session _) rfl rfl invite guest (draws 5)
    exact hlast.2.1.2 ⟨⟨invite, group, ⟨uuid 2⟩, 0, owner⟩, rfl, rfl⟩

end GroupAccess
