import GroupAccess.Http.Server
import GroupAccess.Proofs.Http.Gate
import GroupAccess.Proofs.Interleaving.Foundation

namespace GroupAccess

/-- Whether the status of a reply is one of success. -/
def Reply.succeeds (r : Reply) : Bool := 200 ≤ r.status && r.status < 300

/-- The roles of all members and invites are stored, and the full role if there is a group. -/
structure Tables.Stocked (t : Tables) : Prop where
  valid : t.Valid
  full : t.KnowsFull

namespace Handler

/-- What a handler changes it changes with success, as long as the roles that it counts on are
stored. -/
def Atomic (h : Handler) : Prop :=
  ∀ s : Service, s.Idle → s.tables.Stocked → (h s).1.succeeds = false →
    (h s).2.tables = s.tables

theorem atomic_reply (r : Reply) : Atomic (reply r) := fun _ _ _ _ => rfl

theorem atomic_perform {o : Operation} {d : Draws} {next : o.Result → Handler}
    (hn : ∀ a s, (next a s).1.succeeds = true) : Atomic (perform o d next) := by
  intro s h hc hr
  unfold perform at hr ⊢
  cases hp : s.perform o d with
  | mk r s' =>
    rw [hp] at hr
    cases r with
    | ok a => simp [hn] at hr
    | error e =>
      have he := h.perform_error (o := o) (d := d) (e := e) hc.full (by rw [hp])
      rwa [hp] at he

theorem atomic_withForm {α : Type} [Form α] {req : Request} {next : α → Handler}
    (hn : ∀ a, Atomic (next a)) : Atomic (withForm α req next) := by
  unfold withForm
  split
  · exact hn _
  · exact atomic_reply _

theorem atomic_withId {segment : List Char} {next : Uuid → Handler}
    (hn : ∀ id, Atomic (next id)) : Atomic (withId segment next) := by
  unfold withId
  split
  · exact hn _
  · exact atomic_reply _

end Handler

open Handler

namespace Server

theorem atomic_gate {req : Request} {d : Draws} {next : UserId → Handler}
    (hn : ∀ user, Atomic (next user)) : Atomic (gate req d next) := by
  intro s h hc hr
  unfold gate at hr ⊢
  cases hb : req.bearer? with
  | none => rfl
  | some token =>
    obtain ⟨c, hs⟩ := h.perform_reads (o := .resolveToken token) (d := d) rfl
    simp only [hb] at hr ⊢
    cases hp : s.perform (.resolveToken token) d with
    | mk r s' =>
      rw [hp] at hr hs
      cases hs
      cases r with
      | ok user => exact hn user _ (h.leaving _ c) hc hr
      | error e => rfl

theorem resolveRole_succeeds {s : Service} (h : s.Idle) {user : UserId} {group : GroupId}
    {d : Draws} {r : Role} (hr : s.tables.roleOf user group = .ok r) (f : Role → Json) :
    (perform (.resolveRole user group) d (fun r => ok (f r)) s).1.succeeds = true := by
  rw [perform, h.perform_resolveRole, hr]
  rfl

/-- The role of a new member is known, so the answer to a redemption cannot fail any more. -/
theorem atomic_redeem (user : UserId) (segment : List Char) (d : Draws) :
    Atomic (redeem user segment d) := by
  refine atomic_withId fun id => ?_
  intro s h hc hr
  unfold perform at hr ⊢
  obtain ⟨t, c, hs, ho⟩ := h.perform_outcome (.redeem ⟨id⟩ user) d
  cases hp : s.perform (.redeem ⟨id⟩ user) d with
  | mk r s' =>
    rw [hp] at hr hs ho
    replace hs : s' = s.leaving t c := hs
    subst hs
    cases r with
    | error e => exact ho.unchanged hc.full rfl
    | ok m =>
      obtain ⟨i, hi, hu, hm, rfl, rfl⟩ := ho.redeem_ok
      obtain ⟨role, hrole⟩ := Table.contains_eq_true.1 (hc.valid.invites _ i hi)
      have hmember : (s.tables.admitted ⟨id⟩ { user, group := i.group, role := i.role }).roleOf user
          i.group = .ok role.effective := Tables.roleOf_admitted ⟨id⟩ hrole
      have hok := resolveRole_succeeds (h.leaving _ c) (d := d) hmember fun r =>
        Membership.toJson { user, group := i.group, role := i.role } r
      exact absurd (hok.symm.trans hr) (by decide)

theorem atomic_unguarded (settings : Settings) (req : Request) (d : Draws) (route : Route) :
    Atomic (unguarded settings req d route) := by
  cases route with
  | health =>
    intro s h _ _
    obtain ⟨c, hs⟩ := h.perform_reads (o := .health) (d := d) rfl
    simp only [unguarded, Server.health]
    cases hp : s.perform .health d with
    | mk r s' =>
      rw [hp] at hs
      cases hs
      cases r <;> rfl
  | metrics => exact fun _ _ _ _ => rfl
  | register => exact atomic_withForm fun f => atomic_perform fun _ _ => rfl
  | token =>
    refine atomic_withForm fun f => ?_
    cases f.kind with
    | some kind => exact atomic_perform fun _ _ => rfl
    | none => exact atomic_perform fun _ _ => rfl
  | refresh => exact atomic_withForm fun f => atomic_perform fun _ _ => rfl
  | me | apiKeys | groups | groupInvites _ | groupRole _ | invite _ | redeem _ =>
    exact atomic_reply _

theorem atomic_guarded (req : Request) (target : Url.Target) (user : UserId) (d : Draws)
    (route : Route) (verb : Route.Verb) : Atomic (guarded req target user d route verb) := by
  cases route with
  | me => cases verb <;> exact atomic_perform fun _ _ => rfl
  | apiKeys => exact atomic_perform fun _ _ => rfl
  | groups => exact atomic_withForm fun f => atomic_perform fun _ _ => rfl
  | groupInvites segment =>
    exact atomic_withId fun id => atomic_withForm fun f => atomic_perform fun _ _ => rfl
  | groupRole segment => exact atomic_withId fun id => atomic_perform fun _ _ => rfl
  | invite segment =>
    refine atomic_withId fun id => ?_
    split
    · exact atomic_reply _
    · exact atomic_perform fun _ _ => rfl
  | redeem segment => exact atomic_redeem user segment d
  | health | metrics | register | token | refresh => exact atomic_reply _

theorem atomic_dispatch (settings : Settings) (req : Request) (d : Draws) :
    Atomic (dispatch settings req d) := by
  unfold dispatch
  dsimp only
  split
  · exact atomic_gate fun _ => atomic_reply _
  split
  · exact atomic_reply _
  · exact atomic_gate fun _ => atomic_reply _
  · exact atomic_unguarded settings req d _
  · exact atomic_gate fun user => atomic_guarded req _ user d _ _

/-- A request for the head alone is answered with the same status. -/
theorem handle_succeeds (settings : Settings) (req : Request) (fresh : Uuid) (d : Draws)
    (s : Service) : (handle settings req fresh d s).1.reply.succeeds =
      (dispatch settings req d s).1.succeeds := by
  simp only [handle]
  split
  · rfl
  · rfl

end Server

/-- In every state that operations lead to, whether they are carried out one after the other or at
the same time, when no transaction is open: an operation that is refused and a request that is
answered with anything but success leave the tables exactly as they were. No identifier may be drawn
for two roles. -/
theorem failure_unchanged (policy : Policy) (timeoutMillis : Nat) (clock : Instant)
    (ds : List Draws) (s : Service) (hr : s.ReachedBy policy timeoutMillis clock ds)
    (hd : (ds.map Draws.role).Nodup) (hs : s.store.held = none) :
    (∀ o d e, (s.perform o d).1 = .error e → (s.perform o d).2.tables = s.tables) ∧
      ∀ settings req fresh d, (Server.handle settings req fresh d s).1.reply.succeeds = false →
        (Server.handle settings req fresh d s).2.tables = s.tables := by
  have hi : s.Idle := hr.reached.idle hs
  have ht : s.tables.Stocked := ⟨hr.reached.valid, hr.knowsFull hd⟩
  refine ⟨fun o d e he => hi.perform_error ht.full he, fun settings req fresh d hfail => ?_⟩
  rw [Server.handle_succeeds] at hfail
  exact Server.atomic_dispatch settings req d _ hi ht hfail

namespace Sample

/-- Two users are registered at the same time. One founds a group and invites to it, the other has
an API key. From then on commits fail. -/
def hosting : List Action :=
  [.start (.register "a@b.c" ⟨""⟩) (draws 1), .start (.register "c@d.e" ⟨""⟩) (draws 6), .move 0,
    .move 1, .move 0, .move 1, .start (.createGroup member "readers" none) (draws 2), .move 2,
    .move 2, .start (.createInvite member ⟨uuid 2⟩ .member 1) (draws 3), .move 3, .move 3, .move 3,
    .move 3, .move 3, .start (.issueApiKey ⟨uuid 6⟩) (draws 9), .move 4, .setFaults false true]

/-- The other user redeems the invite. -/
def joining : Request :=
  ⟨"POST", "/invites/03030303-0303-0303-0303-030303030303/redeem",
    [("Authorization", utf8 ("Bearer " ++ apiKey.text))], []⟩

end Sample

open Sample in
/-- A group whose name is taken is refused after its role was asked for, and a request to redeem an
invite is answered with an error when its commit fails. -/
theorem failure_unchanged_sample :
    let s := ((World.start openPolicy 5000 clock).after hosting).service
    s.store.held = none ∧ s.tables.invites.size = 1 ∧
      (s.perform (.createGroup ⟨uuid 6⟩ "readers" none) (draws 7)).1 = .error .groupNameTaken ∧
      (s.perform (.createGroup ⟨uuid 6⟩ "readers" none) (draws 7)).2.tables = s.tables ∧
      (Server.handle settings joining (uuid 0) (draws 8) s).1.reply.status = 500 ∧
      (Server.handle settings joining (uuid 0) (draws 8) s).2.tables = s.tables := by
  intro s
  have hheld : s.store.held = none := by decide +kernel
  have htaken : (s.perform (.createGroup ⟨uuid 6⟩ "readers" none) (draws 7)).1 =
      .error .groupNameTaken := by decide +kernel
  have hstatus : (Server.handle settings joining (uuid 0) (draws 8) s).1.reply.status = 500 := by
    decide +kernel
  obtain ⟨hoperation, hrequest⟩ := failure_unchanged openPolicy 5000 clock _ s (.world hosting)
    (by decide) hheld
  refine ⟨hheld, by decide +kernel, htaken, hoperation _ _ _ htaken, hstatus,
    hrequest settings joining (uuid 0) (draws 8) ?_⟩
  rw [Reply.succeeds, hstatus]
  rfl

end GroupAccess
