import GroupAccess.Proofs.Interleaving.Cascade
import GroupAccess.Proofs.Interleaving.Validity

namespace GroupAccess

namespace Tables

/-- No role and no membership has an identifier that an operation draws. -/
structure Unused (t : Tables) (d : Draws) : Prop where
  role : t.roles.get? d.role = none
  group : ∀ user, t.memberships.get? (user, d.group) = none

def owner? (t : Tables) (group : GroupId) : Option UserId := (t.groups.get? group).map Group.owner

variable {t t' : Tables} {user : UserId} {group : GroupId}

theorem roleOf_outsider (h : t.memberships.get? (user, group) = none) :
    t.roleOf user group = .error .notAMember := by
  rw [roleOf, h]

/-- What a user may do is told by its membership and by a role that is stored, so other rows and new
roles do not count. -/
theorem Valid.roleOf_congr (h : t.Valid)
    (hm : t'.memberships.get? (user, group) = t.memberships.get? (user, group))
    (hr : ∀ id r, t.roles.get? id = some r → t'.roles.get? id = some r) :
    t'.roleOf user group = t.roleOf user group := by
  cases hk : t.memberships.get? (user, group) with
  | none => rw [roleOf_outsider hk, roleOf_outsider (hm.trans hk)]
  | some m =>
    obtain ⟨r, hrole⟩ := Table.contains_eq_true.1 (h.members _ m hk)
    simp only [roleOf, hm, hk, hrole, hr _ r hrole]

/-- Storing a role does not change what anyone may do. -/
theorem Valid.roleOf_createRole (h : t.Valid) (role : Role) {fresh : RoleId}
    (hf : t.roles.get? fresh = none) :
    (t.createRole role fresh).2.roleOf user group = t.roleOf user group :=
  h.roleOf_congr (by rw [createRole_memberships]) fun _ _ hr => createRole_keeps hf hr

theorem get?_deleteUser_memberships (gone : UserId) :
    (t.deleteUser gone).memberships.get? (user, group) =
      (t.memberships.get? (user, group)).filter fun _ =>
        decide (user ≠ gone) && (t.deleteUser gone).groups.contains group :=
  Table.get?_filter ..

/-- A membership is left by the deletion of another user who does not own its group. -/
theorem Valid.roleOf_left (h : t.Valid) {gone owner : UserId} (hu : user ≠ gone)
    (ho : t.owner? group = some owner) (hne : owner ≠ gone) :
    (t.deleteUser gone).roleOf user group = t.roleOf user group := by
  obtain ⟨g, hg, rfl⟩ := Option.map_eq_some_iff.1 ho
  have hleft : (t.deleteUser gone).groups.contains group = true :=
    Table.contains_eq_true.2 ⟨g, Table.get?_filter_eq_some.2 ⟨hg, decide_eq_true hne⟩⟩
  refine h.roleOf_congr ?_ fun _ _ hr => hr
  rw [get?_deleteUser_memberships, decide_eq_true hu, hleft]
  cases t.memberships.get? (user, group) <;> rfl

/-- A membership goes with its user and with the owner of its group, and where there is no group. -/
theorem roleOf_gone {gone : UserId}
    (h : gone = user ∨ ∀ owner, t.owner? group = some owner → owner = gone) :
    (t.deleteUser gone).roleOf user group = .error .notAMember := by
  apply roleOf_outsider
  rw [get?_deleteUser_memberships, Option.filter_eq_none_iff]
  intro m _ hkept
  obtain ⟨huser, hleft⟩ := Bool.and_eq_true_iff.1 hkept
  rcases h with rfl | howner
  · exact of_decide_eq_true huser rfl
  · obtain ⟨g, hg⟩ := Table.contains_eq_true.1 hleft
    obtain ⟨hg, hne⟩ := Table.get?_filter_eq_some.1 hg
    exact of_decide_eq_true hne (howner _ (congrArg (Option.map Group.owner) hg))

end Tables

/-- How an operation on the tables `t` turns, by its answer, what a user may do in a group. -/
def Operation.Turns (t : Tables) (user : UserId) (group : GroupId)
    (before after : Except Refusal Role) : (o : Operation) → Except Refusal o.Result → Prop
  | .redeem invite actor, .ok m =>
    if actor = user ∧ m.group = group then
      before = .error .notAMember ∧ ∃ i role, t.invites.get? invite = some i ∧ i.group = group ∧
        t.roles.get? i.role = some role ∧ after = .ok role.effective
    else after = before
  | .createGroup founder _ _, .ok g =>
    if founder = user ∧ g.id = group then before = .error .notAMember ∧ after = .ok .full
    else after = before
  | .deleteUser gone, .ok true =>
    if gone = user ∨ t.owner? group = some gone then after = .error .notAMember
    else after = before
  | _, _ => after = before

/-- An operation is the deletion of a registered user, and takes the membership of another, whose
group is gone. -/
def Operation.Sweeps (t : Tables) (user : UserId) (group : GroupId) : Operation → Prop
  | .deleteUser gone => t.users.contains gone = true ∧ gone ≠ user ∧
      t.groups.get? group = none ∧ t.memberships.contains (user, group) = true
  | _ => False

namespace Outcome

open Tables

variable {now : Instant} {d : Draws} {t t' : Tables} {user : UserId} {group : GroupId}

theorem turns {o : Operation} {r : Except Refusal o.Result} (ho : Outcome now d t o r t')
    (hv : t.Valid) (hf : t.Unused d) (hd : ∀ gone, o ≠ .deleteUser gone) :
    o.Turns t user group (t.roleOf user group) (t'.roleOf user group) r := by
  cases ho with
  | refused e => cases o <;> rfl
  | kept a hk =>
    cases o with
    | deleteUser gone => exact absurd rfl (hd gone)
    | _ => first | rfl | cases hk
  | deleted => exact absurd rfl (hd _)
  | registered | purged => rfl
  | secretStored hs => cases o <;> first | rfl | cases hs
  | roleStored | nameTaken => exact hv.roleOf_createRole _ hf.role
  | invited => exact hv.roleOf_createRole _ hf.role
  | @founded owner _ _ g hid ho =>
    have hkey (he : ¬(owner = user ∧ g.id = group)) : (user, group) ≠ (g.owner, g.id) := by
      rw [ho]
      rintro ⟨⟩
      exact he ⟨rfl, rfl⟩
    rw [Operation.Turns]
    split
    · rename_i he
      obtain ⟨rfl, rfl⟩ := he
      refine ⟨roleOf_outsider (hid ▸ hf.group owner), ?_⟩
      have hrole : (t.createRole .full d.role).2.roles.get? (t.createRole .full d.role).1 =
          some .full := createRole_get ..
      rw [roleOf, ← ho, Table.get?_insert_self]
      simp only [Membership.owner, hrole]
      rfl
    · rename_i he
      refine hv.roleOf_congr ?_ fun _ _ hr => createRole_keeps hf.role hr
      exact (Table.get?_insert ..).trans (if_neg (hkey he))
  | @redeemed invite actor i hi hu hm =>
    rw [Operation.Turns]
    split
    · rename_i he
      obtain ⟨rfl, rfl⟩ := he
      obtain ⟨role, hrole⟩ := Table.contains_eq_true.1 (hv.invites _ i hi)
      exact ⟨roleOf_outsider hm, i, role, hi, rfl, hrole, roleOf_admitted invite hrole⟩
    · rename_i he
      have hkey : (user, group) ≠ (actor, i.group) := by
        rintro ⟨⟩
        exact he ⟨rfl, rfl⟩
      refine hv.roleOf_congr ?_ fun _ _ hr => hr
      exact (Table.get?_insert ..).trans (if_neg hkey)

end Outcome

/-- A deletion keeps to the law just if it takes no membership whose group is gone. -/
theorem turns_deleteUser {t : Tables} (hv : t.Valid) (gone user : UserId) (group : GroupId) :
    ((Operation.deleteUser gone).Turns t user group (t.roleOf user group)
      ((t.cascade gone).roleOf user group) (.ok (t.users.contains gone)) ↔
        ¬(Operation.deleteUser gone).Sweeps t user group) ∧
    ((Operation.deleteUser gone).Sweeps t user group →
      (∃ role, t.roleOf user group = .ok role) ∧
        (t.cascade gone).roleOf user group = .error .notAMember) := by
  unfold Tables.cascade
  cases hu : t.users.contains gone with
  | false =>
    have hn : ¬(Operation.deleteUser gone).Sweeps t user group := fun h => by
      cases h.1.symm.trans hu
    exact ⟨iff_of_true rfl hn, fun h => absurd h hn⟩
  | true =>
    rw [if_pos rfl, Operation.Turns]
    by_cases hself : gone = user
    · have hn : ¬(Operation.deleteUser gone).Sweeps t user group := fun h => h.2.1 hself
      rw [if_pos (.inl hself)]
      exact ⟨iff_of_true (Tables.roleOf_gone (.inl hself)) hn, fun h => absurd h hn⟩
    cases ho : t.owner? group with
    | some owner =>
      have hn : ¬(Operation.deleteUser gone).Sweeps t user group := fun h => by
        rw [Tables.owner?, h.2.2.1] at ho
        cases ho
      refine ⟨iff_of_true ?_ hn, fun h => absurd h hn⟩
      by_cases howner : owner = gone
      · rw [if_pos (.inr (congrArg some howner))]
        refine Tables.roleOf_gone (.inr fun owner' ho' => ?_)
        cases ho.symm.trans ho'
        exact howner
      · rw [if_neg (not_or.2 ⟨hself, fun h => howner (Option.some.inj h)⟩)]
        exact hv.roleOf_left (Ne.symm hself) ho howner
    | none =>
      have hgroup : t.groups.get? group = none := Option.map_eq_none_iff.1 ho
      have hgone : (t.deleteUser gone).roleOf user group = .error .notAMember :=
        Tables.roleOf_gone (.inr fun owner ho' => nomatch ho.symm.trans ho')
      rw [if_neg (not_or.2 ⟨hself, nofun⟩), hgone]
      cases hm : t.memberships.contains (user, group) with
      | false =>
        have hn : ¬(Operation.deleteUser gone).Sweeps t user group := fun h => by
          cases h.2.2.2.symm.trans hm
        rw [Tables.roleOf_outsider (Table.contains_eq_false.1 hm)]
        exact ⟨iff_of_true rfl hn, fun h => absurd h hn⟩
      | true =>
        obtain ⟨own, hown⟩ := hv.roleOf_member hm
        rw [hown]
        exact ⟨iff_of_false nofun fun h => h ⟨hu, hself, hgroup, hm⟩, fun _ => ⟨⟨own, rfl⟩, rfl⟩⟩

namespace Service

variable {policy : Policy} {timeoutMillis : Nat} {clock : Instant}

theorem unused_after {steps : List Step} {o : Operation} {d : Draws}
    (h : DrawnOnce (steps ++ [.perform o d])) :
    ((start policy timeoutMillis clock).after steps).tables.Unused d := by
  have hfrom : DrawnFrom steps ((start policy timeoutMillis clock).after steps).tables :=
    drawnFrom_after steps
  have hfresh := hfrom.fresh h
  refine ⟨hfresh.role, fun user => Option.eq_none_iff_forall_not_mem.2 fun m hm => ?_⟩
  obtain ⟨hkey, hgroup⟩ := (grounded_after policy timeoutMillis clock steps).members _ m hm
  obtain ⟨g, hg⟩ := Table.contains_eq_true.1 hgroup
  have hof : m.group = d.group := congrArg Prod.snd hkey
  rw [hof, hfresh.group] at hg
  cases hg

/-- Nothing is swept as long as operations are carried out one after the other. -/
theorem not_sweeps_after (steps : List Step) (o : Operation) (user : UserId) (group : GroupId) :
    ¬o.Sweeps ((start policy timeoutMillis clock).after steps).tables user group := by
  cases o with
  | deleteUser gone =>
    rintro ⟨-, -, hn, hm⟩
    obtain ⟨m, hm⟩ := Table.contains_eq_true.1 hm
    obtain ⟨hkey, hgroup⟩ := (grounded_after policy timeoutMillis clock steps).members _ m hm
    obtain ⟨g, hg⟩ := Table.contains_eq_true.1 hgroup
    have hof : m.group = group := congrArg Prod.snd hkey
    rw [hof, hn] at hg
    cases hg
  | _ => exact fun h => h

end Service

/-- In every state that operations lead to, when no transaction is open, a single operation changes
what a user may do in a group just as follows, with one exception. A redemption that succeeds admits
its user to the group of its invite, with the role of the invite; the founder of a group is admitted
to it with the full role; whoever is deleted, and all members of a group whose owner is deleted, are
members no more. Whoever is admitted was no member. Nothing else changes what anyone may do
anywhere, as long as the operation draws identifiers that are not in use.

The exception is a membership whose group is gone: any deletion takes it. There is none as long as
operations are carried out one after the other. -/
theorem role_stable (policy : Policy) (timeoutMillis : Nat) (clock : Instant) (s : Service)
    (hr : s.Reached policy timeoutMillis clock) (hs : s.store.held = none) (o : Operation)
    (d : Draws) (hd : s.tables.Unused d) (user : UserId) (group : GroupId) (before after : Draws) :
    let old := (s.perform (.resolveRole user group) before).1
    let new := ((s.perform o d).2.perform (.resolveRole user group) after).1
    (o.Turns s.tables user group old new (s.perform o d).1 ↔ ¬o.Sweeps s.tables user group) ∧
      (o.Sweeps s.tables user group → (∃ role, old = .ok role) ∧ new = .error .notAMember) ∧
      ∀ steps, s = (Service.start policy timeoutMillis clock).after steps →
        ¬o.Sweeps s.tables user group := by
  intro old new
  have hi : s.Idle := hr.idle hs
  have hlater : (s.perform o d).2.Idle := hi.step (.perform o d)
  have hold : old = s.tables.roleOf user group := by
    simp only [old, hi.perform_resolveRole]
  have hnew : new = (s.step (.perform o d)).tables.roleOf user group := by
    simp only [new, hlater.perform_resolveRole]
    rfl
  rw [hold, hnew, ← and_assoc]
  refine ⟨?_, fun steps h => h ▸ Service.not_sweeps_after steps o user group⟩
  by_cases hdel : ∃ gone, o = .deleteUser gone
  · obtain ⟨gone, rfl⟩ := hdel
    rw [(hi.perform_deleteUser gone d).1, hi.step_deleteUser]
    exact turns_deleteUser hr.valid gone user group
  · have hn : ¬o.Sweeps s.tables user group := by
      cases o with
      | deleteUser gone => exact absurd ⟨gone, rfl⟩ hdel
      | _ => exact fun h => h
    have ht : o.Turns s.tables user group (s.tables.roleOf user group)
        ((s.step (.perform o d)).tables.roleOf user group) (s.perform o d).1 :=
      (hi.step_outcome o d).turns hr.valid hd fun gone ho => hdel ⟨gone, ho⟩
    exact ⟨iff_of_true ht hn, fun h => absurd h hn⟩

namespace Sample

/-- The second who is invited comes too. -/
def coming : Operation := .redeem invite stranger

theorem coming_drawnOnce : DrawnOnce (steps ++ [.perform coming (draws 4)]) := by
  constructor <;> decide

end Sample

open Sample in
/-- The stranger becomes a member; the guest, who is one, keeps its role. -/
theorem role_stable_sample :
    let s := service.after steps
    s.Reached policy 5000 clock ∧ s.store.held = none ∧ s.tables.Unused (draws 4) ∧
      (s.perform (.resolveRole stranger group) (draws 5)).1 = .error .notAMember ∧
      ((s.perform coming (draws 4)).2.perform (.resolveRole stranger group) (draws 5)).1 =
        .ok .member ∧
      ((s.perform coming (draws 4)).2.perform (.resolveRole guest group) (draws 5)).1 =
        (s.perform (.resolveRole guest group) (draws 5)).1 := by
  intro s
  have hreached : s.Reached policy 5000 clock := .session steps
  have hunused : s.tables.Unused (draws 4) := Service.unused_after coming_drawnOnce
  have hanswer : (s.perform coming (draws 4)).1 = .ok ⟨stranger, group, ⟨uuid 2⟩, false⟩ := rfl
  have hstable (user : UserId) : coming.Turns s.tables user group
      (s.perform (.resolveRole user group) (draws 5)).1
      ((s.perform coming (draws 4)).2.perform (.resolveRole user group) (draws 5)).1
      (s.perform coming (draws 4)).1 := by
    obtain ⟨hlaw, -, hsession⟩ := role_stable policy 5000 clock s hreached rfl coming (draws 4)
      hunused user group (draws 5) (draws 5)
    exact hlaw.2 (hsession steps rfl)
  have hstranger := hstable stranger
  have hguest := hstable guest
  rw [hanswer] at hstranger hguest
  obtain ⟨hbefore, i, role, hi, -, hrole, hafter⟩ := hstranger
  have hinvite : s.tables.invites.get? invite = some ⟨invite, group, ⟨uuid 2⟩, 1, owner⟩ := rfl
  cases hi.symm.trans hinvite
  have hstored : s.tables.roles.get? ⟨uuid 2⟩ = some .member := rfl
  cases hrole.symm.trans hstored
  exact ⟨hreached, rfl, hunused, hbefore, hafter, hguest⟩

open Sample in
/-- A guest may act in a group until a third user is deleted, who did not own the group. -/
theorem role_swept :
    let s := ((World.start openPolicy 5000 clock).after arrival).service
    let s' := s.step (.perform (.deleteUser neighbour) (draws 7))
    s.store.held = none ∧ (s.perform (.deleteUser neighbour) (draws 7)).1 = .ok true ∧
      neighbour ≠ guest ∧ s.tables.owner? ⟨uuid 2⟩ ≠ some neighbour ∧
      (s.perform (.resolveRole guest ⟨uuid 2⟩) (draws 8)).1 = .ok .member ∧
      (s'.perform (.resolveRole guest ⟨uuid 2⟩) (draws 8)).1 = .error .notAMember := by
  decide +kernel

end GroupAccess
