import GroupAccess.Proofs.Session.Consistency
import GroupAccess.Proofs.Token.Session

namespace GroupAccess

/-- No row mentions the user. -/
structure Tables.Clear (t : Tables) (user : UserId) : Prop where
  tokens : ∀ digest s, t.tokens.get? digest = some s → s.user ≠ user
  groups : ∀ id g, t.groups.get? id = some g → g.owner ≠ user
  members : ∀ k m, t.memberships.get? k = some m → m.user ≠ user
  invites : ∀ id i, t.invites.get? id = some i → i.createdBy ≠ user

namespace Tables

variable {t : Tables} {user : UserId}

/-- What is deleted with a user is all that mentions it. -/
theorem Consistent.clear_deleteUser (h : t.Consistent) : (t.deleteUser user).Clear user := by
  refine ⟨fun digest s hs => ?_, fun id g hg => ?_, fun k m hm => ?_, fun id i hi => ?_⟩
  · exact of_decide_eq_true (Table.get?_filter_eq_some.1 hs).2
  · exact of_decide_eq_true (Table.get?_filter_eq_some.1 hg).2
  · obtain ⟨hm, hk⟩ := Table.get?_filter_eq_some.1 hm
    rw [show m.user = k.1 by rw [← h.members.key k m hm]; rfl]
    exact of_decide_eq_true (Bool.and_eq_true_iff.1 hk).1
  · exact of_decide_eq_true (Bool.and_eq_true_iff.1 (Table.get?_filter_eq_some.1 hi).2).1

namespace Clear

theorem delete (h : t.Clear user) (id : UserId) : (t.deleteUser id).Clear user :=
  ⟨fun digest s hs => h.tokens digest s (Table.get?_filter_eq_some.1 hs).1,
    fun id g hg => h.groups id g (Table.get?_filter_eq_some.1 hg).1,
    fun k m hm => h.members k m (Table.get?_filter_eq_some.1 hm).1,
    fun id i hi => h.invites id i (Table.get?_filter_eq_some.1 hi).1⟩

theorem storeRole (h : t.Clear user) (r : Role) (fresh : RoleId) :
    (t.createRole r fresh).2.Clear user := by
  refine ⟨?_, ?_, ?_, ?_⟩
  · rw [createRole_tokens]
    exact h.tokens
  · rw [createRole_groups]
    exact h.groups
  · rw [createRole_memberships]
    exact h.members
  · rw [createRole_invites]
    exact h.invites

/-- Whoever is not mentioned can do nothing in any group. -/
theorem not_roleOf (h : t.Clear user) (hc : t.Consistent) {group : GroupId} {r : Role} :
    t.roleOf user group ≠ .ok r := by
  intro hr
  obtain ⟨m, -, hm, -⟩ := roleOf_eq_ok hr
  exact h.members _ m hm (congrArg Prod.fst (hc.members.key _ m hm))

end Clear

end Tables

/-- An operation does not mention a user that is neither registered nor mentioned, unless it
succeeds and is one that does not ask for its user. -/
theorem Outcome.clear {now : Instant} {d : Draws} {t t' : Tables} {o : Operation}
    {r : Except Refusal o.Result} {user : UserId} (ho : Outcome now d t o r t')
    (hc : t.Consistent) (h : t.Clear user) (hu : t.users.contains user = false)
    (hw : ∀ a, r = .ok a → o.writesFor? ≠ some user) : t'.Clear user := by
  cases ho with
  | refused | kept => exact h
  | registered => exact ⟨h.tokens, h.groups, h.members, h.invites⟩
  | @secretStored _ a s _ _ _ hs =>
    refine ⟨fun digest s' hs' => ?_, h.groups, h.members, h.invites⟩
    rcases Table.get?_insert_cases hs' with ⟨-, rfl⟩ | hs'
    · rintro rfl
      rcases hs with hs | ⟨-, u, hrow, hid⟩
      · exact hw a rfl hs
      · -- The secret goes to a user whose password was given, so to a registered one.
        obtain ⟨id, hget⟩ := Table.mem_rows.1 hrow
        rw [← hid, hc.users.key id u hget, Table.contains_eq_false, hget] at hu
        cases hu
    · exact h.tokens digest s' hs'
  | deleted => exact h.delete _
  | purged =>
    exact ⟨fun digest s hs => h.tokens digest s (Table.get?_filter_eq_some.1 hs).1, h.groups,
      h.members, h.invites⟩
  | roleStored | nameTaken => exact h.storeRole _ _
  | @founded owner _ _ g _ ho =>
    have hne : g.owner ≠ user := fun he => hw g rfl (congrArg some (ho.symm.trans he))
    have hr := h.storeRole .full d.role
    refine ⟨hr.tokens, fun id g' hg => ?_, fun k m hm => ?_, hr.invites⟩
    · rcases Table.get?_insert_cases hg with ⟨-, rfl⟩ | hg
      · exact hne
      · exact h.groups id g' hg
    · rcases Table.get?_insert_cases hm with ⟨-, rfl⟩ | hm
      · exact hne
      · exact h.members k m hm
  | @invited actor group role _ own _ _ _ hr =>
    have hs := h.storeRole role d.role
    refine ⟨hs.tokens, hs.groups, hs.members, fun id i hi => ?_⟩
    rcases Table.get?_insert_cases hi with ⟨-, rfl⟩ | hi
    · rintro rfl
      exact h.not_roleOf hc hr
    · exact hs.invites id i hi
  | @redeemed invite member i hi =>
    refine ⟨h.tokens, h.groups, fun k m hm => ?_, fun id j hj => ?_⟩
    · rcases Table.get?_insert_cases hm with ⟨-, rfl⟩ | hm
      · exact fun he => hw _ rfl (congrArg some he)
      · exact h.members k m hm
    · obtain ⟨j', hj', rfl⟩ := Tables.takeUse_invites hj
      exact h.invites id j' hj'

/-- An operation that does not ask for its user mentions it when it succeeds. -/
theorem Outcome.not_clear {now : Instant} {d : Draws} {t t' : Tables} {o : Operation}
    {a : o.Result} {user : UserId} (ho : Outcome now d t o (.ok a) t')
    (hw : o.writesFor? = some user) : ¬t'.Clear user := by
  intro h
  cases ho with
  | kept a ho =>
    rw [Operation.writesFor?_of_mayKeep ho] at hw
    cases hw
  | @secretStored _ _ s _ _ _ hs =>
    refine h.tokens _ s (Table.get?_insert_self ..) ?_
    rcases hs with hs | ⟨hs, -⟩
    · exact Option.some.inj (hs.symm.trans hw)
    · rw [hs] at hw
      cases hw
  | founded hid ho =>
    exact h.groups _ _ (Table.get?_insert_self ..) (ho.trans (Option.some.inj hw))
  | redeemed => exact h.members _ _ (Table.get?_insert_self ..) (Option.some.inj hw)
  | registered | deleted | purged | roleStored | invited => cases hw

open Step

namespace Service

variable {s : Service}

theorem Idle.perform_deleteUser (h : s.Idle) (user : UserId) (d : Draws) :
    (s.perform (.deleteUser user) d).1 = .ok (s.tables.users.contains user) ∧
      (s.step (.perform (.deleteUser user) d)).tables =
        if s.tables.users.contains user then s.tables.deleteUser user else s.tables := by
  rw [Service.step, perform_eq (o := .deleteUser user) (h.run_deleteUser user)]
  exact ⟨rfl, rfl⟩

/-- The operation succeeds among the steps from `s` on. -/
def Succeeds (s : Service) (steps : List Step) (o : Operation) : Prop :=
  ∃ pre d post a, steps = pre ++ .perform o d :: post ∧ ((s.after pre).perform o d).1 = .ok a

theorem Succeeds.append {steps : List Step} {o : Operation} (h : s.Succeeds steps o)
    (more : List Step) : s.Succeeds (steps ++ more) o := by
  obtain ⟨pre, d, post, a, rfl, ha⟩ := h
  exact ⟨pre, d, post ++ more, a, by rw [List.append_assoc, List.cons_append], ha⟩

/-- A token leads to registered users only. -/
theorem Idle.resolveToken_registered (h : s.Idle) {text : String} {d : Draws} {user : UserId}
    (hr : (s.perform (.resolveToken text) d).1 = .ok user) :
    s.tables.users.contains user = true := by
  rw [h.perform_resolveToken] at hr
  cases hb : s.tables.bearer? s.policy.tokens s.clock .access text with
  | none =>
    rw [hb] at hr
    cases hr
  | some bearer =>
    rw [hb] at hr
    cases hr
    exact (Option.filter_eq_some_iff.1 hb).2

section

variable {policy : Policy} {timeoutMillis : Nat} {clock : Instant} {past : List Step}
  {user : UserId}

/-- A deletion leaves the user unregistered and unmentioned. -/
theorem deleted_after {d : Draws} (h : DrawnOnce past)
    (hd : (((start policy timeoutMillis clock).after past).perform (.deleteUser user) d).1 =
      .ok true) :
    user ∈ drawn Draws.user past ∧
      (((start policy timeoutMillis clock).after past).step
        (.perform (.deleteUser user) d)).tables.users.contains user = false ∧
      (((start policy timeoutMillis clock).after past).step
        (.perform (.deleteUser user) d)).tables.Clear user := by
  have hi := (start_idle policy timeoutMillis clock).after past
  obtain ⟨hr, ht⟩ := hi.perform_deleteUser user d
  rw [hd] at hr
  have hu := (Except.ok.inj hr).symm
  obtain ⟨u, hget⟩ := Table.contains_eq_true.1 hu
  rw [ht, if_pos hu, Table.contains_eq_false]
  exact ⟨(drawnFrom_after past).users user u hget, (Table.get?_erase ..).trans (if_pos rfl),
    (consistent_after h).clear_deleteUser⟩

/-- A user whose identifier was drawn once and that is not registered never is again. -/
theorem unregistered_after (hp : user ∈ drawn Draws.user past)
    (hu : ((start policy timeoutMillis clock).after past).tables.users.contains user = false)
    (later : List Step) (h : DrawnOnce (past ++ later)) :
    ((start policy timeoutMillis clock).after (past ++ later)).tables.users.contains user =
      false := by
  induction later using List.reverseRecOn with
  | nil =>
    rw [List.append_nil]
    exact hu
  | append_singleton later x ih =>
    rw [← List.append_assoc] at h ⊢
    rw [after_concat]
    have hi := (start_idle policy timeoutMillis clock).after (past ++ later)
    refine Bool.eq_false_iff.2 fun hc => ?_
    rcases (hi.turned (.step x)).2.2.users hc with hc | hx
    · rw [ih h.init] at hc
      cases hc
    · cases x with
      | perform o d =>
        have hne : user ≠ d.user := by
          rintro rfl
          refine DrawnOnce.last h.users ?_
          rw [drawn_append]
          exact List.mem_append_left _ hp
        cases o <;> first | exact hne (Option.some.inj hx).symm | cases hx
      | setClock now => cases hx
      | setFaults tokenWrites commits => cases hx

/-- No row comes to mention such a user as long as no operation that does not ask for it succeeds
in its name. -/
theorem clear_after (hp : user ∈ drawn Draws.user past)
    (hu : ((start policy timeoutMillis clock).after past).tables.users.contains user = false)
    (hc : ((start policy timeoutMillis clock).after past).tables.Clear user)
    (later : List Step) (h : DrawnOnce (past ++ later))
    (hw : ∀ o, ((start policy timeoutMillis clock).after past).Succeeds later o →
      o.writesFor? ≠ some user) :
    ((start policy timeoutMillis clock).after (past ++ later)).tables.Clear user := by
  induction later using List.reverseRecOn with
  | nil =>
    rw [List.append_nil]
    exact hc
  | append_singleton later x ih =>
    rw [← List.append_assoc] at h ⊢
    rw [after_concat]
    have hclear := ih h.init fun o ho => hw o (ho.append [x])
    cases hx : x.draws with
    | none =>
      rw [step_tables hx]
      exact hclear
    | some d =>
      cases x with
      | perform o d =>
        have hi := (start_idle policy timeoutMillis clock).after (past ++ later)
        refine (hi.step_outcome o d).clear (consistent_after h.init) hclear
          (unregistered_after hp hu later h.init) fun a ha => hw o ?_
        rw [after_append] at ha
        exact ⟨later, d, [], a, rfl, ha⟩
      | setClock now => cases hx
      | setFaults tokenWrites commits => cases hx

end

end Service

/-- A deleted user is never registered again in a session, and no token leads to it. No row mentions
it as long as no operation that does not ask for its user succeeds in its name, and one does from
then on. -/
theorem deletion_final (policy : Policy) (timeoutMillis : Nat) (clock : Instant)
    (before after : List Step) (user : UserId) (d : Draws)
    (h : DrawnOnce (before ++ .perform (.deleteUser user) d :: after))
    (hd : (((Service.start policy timeoutMillis clock).after before).perform
      (.deleteUser user) d).1 = .ok true) :
    let s := ((Service.start policy timeoutMillis clock).after before).step
      (.perform (.deleteUser user) d)
    (s.after after).tables.users.contains user = false ∧
      (∀ text d', ((s.after after).perform (.resolveToken text) d').1 ≠ .ok user) ∧
      ((∀ pre, pre <+: after → (s.after pre).tables.Clear user) ↔
        ∀ o, s.Succeeds after o → o.writesFor? ≠ some user) := by
  intro s
  have hs : s = (Service.start policy timeoutMillis clock).after
    (before ++ [.perform (.deleteUser user) d]) := (Service.after_concat ..).symm
  rw [List.append_cons] at h
  obtain ⟨hdrawn, hgone, hclear⟩ := Service.deleted_after h.init.init hd
  have hp : user ∈ drawn Draws.user (before ++ [.perform (.deleteUser user) d]) := by
    rw [drawn_append]
    exact List.mem_append_left _ hdrawn
  rw [← Service.after_concat] at hgone hclear
  generalize before ++ [.perform (.deleteUser user) d] = past at *
  clear_value s
  subst hs
  have hi := (Service.start_idle policy timeoutMillis clock).after past
  have hnever := Service.unregistered_after hp hgone after h
  rw [Service.after_append] at hnever
  refine ⟨hnever, fun text d' hr => ?_, fun hpre o ho hw => ?_, fun hw pre hpre => ?_⟩
  · have hreg := (hi.after after).resolveToken_registered hr
    rw [hnever] at hreg
    cases hreg
  · -- The rows that the operation stores are there right after it.
    obtain ⟨pre, d', post, a, rfl, ha⟩ := ho
    have hout := (hi.after pre).step_outcome o d'
    rw [ha, ← Service.after_concat] at hout
    refine hout.not_clear hw (hpre _ ⟨post, ?_⟩)
    rw [List.append_assoc, List.singleton_append]
  · obtain ⟨post, rfl⟩ := hpre
    rw [← List.append_assoc] at h
    rw [← Service.after_append]
    exact Service.clear_after hp hgone hclear pre h.init fun o ho => hw o (ho.append post)

namespace Sample

def deletion : Step := .perform (.deleteUser member) (draws 2)

def founding (founder : UserId) : Step := .perform (.createGroup founder "readers" none) (draws 3)

def key : Step := .perform (.issueApiKey member) (draws 4)

end Sample

open Sample in
/-- After a member is deleted, another user founds a group. -/
theorem deletion_final_sample :
    DrawnOnce ([entry] ++ deletion :: [founding owner]) ∧
      (((Service.start openPolicy 5000 clock).after [entry]).perform (.deleteUser member)
        (draws 2)).1 = .ok true ∧
      ((Service.start openPolicy 5000 clock).after
        [entry, deletion, founding owner]).tables.groups.size = 1 ∧
      ((Service.start openPolicy 5000 clock).after
        [entry, deletion, founding owner]).tables.Clear member := by
  have hd : (((Service.start openPolicy 5000 clock).after [entry]).perform (.deleteUser member)
      (draws 2)).1 = .ok true := rfl
  have honce : DrawnOnce ([entry] ++ deletion :: [founding owner]) := by
    constructor <;> decide
  refine ⟨honce, hd, by decide +kernel, ?_⟩
  refine (deletion_final openPolicy 5000 clock [entry] [founding owner] member (draws 2) honce
    hd).2.2.2 ?_ _ List.prefix_rfl
  rintro o ⟨pre, d, post, -, hsteps, -⟩
  have hm : .perform o d ∈ [founding owner] := by
    rw [hsteps]
    exact List.mem_append_right _ (List.mem_cons_self ..)
  cases List.mem_singleton.1 hm
  decide

open Sample in
/-- A key and a group for a user that was deleted. -/
theorem mentioned_after_deletion :
    DrawnOnce [entry, deletion, founding member, key] ∧
      (((Service.start openPolicy 5000 clock).after [entry]).perform (.deleteUser member)
        (draws 2)).1 = .ok true ∧
      let t := ((Service.start openPolicy 5000 clock).after
        [entry, deletion, founding member, key]).tables
      t.users.size = 0 ∧ t.tokens.rows.map SecretRecord.user = [member] ∧
        t.groups.rows.map Group.owner = [member] ∧
        t.memberships.rows.map Membership.user = [member] :=
  ⟨by constructor <;> decide, rfl, by decide +kernel⟩

end GroupAccess
