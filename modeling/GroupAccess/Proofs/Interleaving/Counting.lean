import GroupAccess.Proofs.Interleaving.Advance
import GroupAccess.Proofs.Operation.Credentials
import GroupAccess.Proofs.Operation.Report
import GroupAccess.Proofs.Token.Lifetime
import Mathlib.Algebra.BigOperators.Fin

namespace GroupAccess

open Program

/-- Events of one sort are none of another. -/
theorem Event.count_map_eq_zero {α : Type} {f : α → Event} {e : Event} (h : ∀ a, f a ≠ e)
    (l : List α) : (l.map f).count e = 0 :=
  List.count_eq_zero.2 fun hm => (List.mem_map.1 hm).elim fun a ha => h a ha.2

namespace Operation

variable (policy : TokenPolicy) (now : Instant) (o : Operation) (r : Except Refusal o.Result)

theorem report_issued (kind : TokenKind) :
    (o.report policy now r).count (.tokenIssued kind) =
      (o.given r).count kind + (o.surplus policy now r).count kind := by
  have hi : Function.Injective Event.tokenIssued := fun _ _ h => Event.tokenIssued.inj h
  rw [report, List.count_append, List.count_append, List.count_map_of_injective _ _ hi,
    Event.count_map_eq_zero (fun _ h => by cases h),
    Event.count_map_eq_zero (fun _ h => by cases h), List.count_append]
  rfl

theorem report_redeemed (outcome : String) :
    (o.report policy now r).count (.redemption outcome) = (o.redemptions r).count outcome := by
  have hi : Function.Injective Event.redemption := fun _ _ h => Event.redemption.inj h
  rw [report, List.count_append, List.count_append, List.count_map_of_injective _ _ hi,
    Event.count_map_eq_zero (fun _ h => by cases h),
    Event.count_map_eq_zero (fun _ h => by cases h), Nat.zero_add, Nat.add_zero]

variable {policy now o r}

/-- Tokens are counted and not handed out only when the access token of a login has an expiry and
the refresh token has none. -/
theorem surplus_eq_nil (h : (now.add? policy.accessLifetime).isSome = true →
    (now.add? policy.refreshLifetime).isSome = true) : o.surplus policy now r = [] := by
  cases o with
  | login email password =>
    cases r with
    | ok pair => rfl
    | error e =>
      simp only [surplus, Tokens.halved, Tokens.expiryAfter]
      cases ha : now.add? policy.accessLifetime with
      | none => rfl
      | some expiry =>
        rw [ha] at h
        obtain ⟨expiry', hr⟩ := Option.isSome_iff_exists.1 (h rfl)
        rw [hr]
  | _ => cases r <;> rfl

end Operation

/-- A call outside a transaction is answered while nobody holds the tables, and nobody does then. -/
theorem Store.call_free {s : Store} {c : Call} (hh : s.held = none)
    (hc : c.method.transacts = false) : ∃ r s', s.call k c = some (r, s') ∧ s'.held = none := by
  obtain ⟨t, held, tokens, commits⟩ := s
  cases hh
  cases c with
  | createToken r =>
    rw [Store.call]
    split
    · exact ⟨_, _, rfl, rfl⟩
    · exact ⟨_, _, rfl, rfl⟩
  | begin | decrement | insertMembership | commit | rollback => cases hc
  | _ => exact ⟨_, _, rfl, rfl⟩

namespace Service

variable {α : Type} {s : Service} {k : Agent}

/-- An operation is not given up, and this is its result. -/
def Answers (s : Service) (o : Operation) (d : Draws) (r : Except Refusal o.Result) : Prop :=
  (run worker (o.program s.policy s.clock d) s).1 = some r

theorem Answers.perform {o : Operation} {d : Draws} {r : Except Refusal o.Result}
    (h : s.Answers o d r) : (s.perform o d).1 = r := by
  rw [perform_run, h]
  rfl

/-- The counters after an operation that is answered, as far as tokens and redemptions go. -/
theorem Answers.counters {o : Operation} {d : Draws} {r : Except Refusal o.Result}
    (h : s.Answers o d r) {e : Event} (he : ∀ name, e ≠ .operation name) :
    (s.perform o d).2.counters.count e =
      s.counters.count e + (o.report s.policy.tokens s.clock r).count e := by
  obtain ⟨es, rfl, hc⟩ := run_tells (o.program_tells s.policy s.clock d) h
  rw [perform_run, Service.count, Counters.count_add, if_neg (he o.name).symm, hc,
    Counters.count_foldl, Nat.add_zero]

/-- A program without transactions comes to its end. -/
theorem Idle.run_free (h : s.Idle) {p : Program α}
    (hp : Calls (fun c => c.method.transacts = false) p) : ∃ r, (run k p s).1 = some r := by
  induction hp generalizing s with
  | done r => exact ⟨r, rfl⟩
  | count e _ ih => exact ih (h.count e)
  | call hc _ ih =>
    obtain ⟨r, store, hs, hfree⟩ := Store.call_free (k := k) h.held hc
    rw [run_call (call_of_store h.plan hs)]
    exact ih r ⟨h.plan, hfree⟩

/-- No deadline elapses for an operation that is carried out alone. -/
theorem Idle.answers (h : s.Idle) (o : Operation) (d : Draws) :
    s.Answers o d (s.perform o d).1 := by
  obtain ⟨r, hr⟩ : ∃ r, s.Answers o d r := by
    cases o with
    | redeem invite user =>
      obtain ⟨c, hr⟩ := h.run_redeemed (k := worker) invite user
      exact ⟨_, congrArg Prod.fst hr⟩
    | _ =>
      refine h.run_free ((program_calls s.policy s.clock d _).mono fun c hc => ?_)
      revert hc
      generalize c.method = m
      simp only [Operation.methods]
      revert m
      decide
  rwa [Answers.perform hr]

/-- Whoever logs in has the password of an account, the access token has an expiry and the refresh
token has none. -/
structure Halves (s : Service) (email : String) (password : Password) : Prop where
  known : (s.tables.authenticated s.policy.passwords email password).isSome = true
  access : (s.clock.add? s.policy.tokens.accessLifetime).isSome = true
  refresh : s.clock.add? s.policy.tokens.refreshLifetime = none

/-- Such a login is refused when its access token is counted. -/
theorem Idle.perform_halves (h : s.Idle) {email : String} {password : Password}
    (hs : s.Halves email password) (d : Draws) :
    (s.perform (.login email password) d).1 = .error
        (.internal s!"token lifetime {s.policy.tokens.refreshLifetime.text} out of range") ∧
      (Operation.login email password).surplus s.policy.tokens s.clock
        (s.perform (.login email password) d).1 = [.signed] := by
  obtain ⟨user, hu⟩ := Option.isSome_iff_exists.1 hs.known
  obtain ⟨expiry, ha⟩ := Option.isSome_iff_exists.1 hs.access
  obtain ⟨c, hp⟩ := h.perform_login email password d
  have haccess : Tokens.expiryAfter s.clock s.policy.tokens.accessLifetime = .ok expiry := by
    rw [Tokens.expiryAfter, ha]
  have hrefresh : Tokens.expiryAfter s.clock s.policy.tokens.refreshLifetime =
      .error (.internal
        s!"token lifetime {s.policy.tokens.refreshLifetime.text} out of range") := by
    rw [Tokens.expiryAfter, hs.refresh]
  have hresult : (s.perform (.login email password) d).1 = .error (.internal
      s!"token lifetime {s.policy.tokens.refreshLifetime.text} out of range") := by
    rw [hp, hu]
    simp only [Option.elim_some, Tokens.paired, Tokens.signed_of_add? ha]
    rw [Tokens.signed, hrefresh]
    rfl
  rw [hresult]
  exact ⟨rfl, Tokens.halved_of_no_refresh haccess hrefresh⟩

/-- All others hand out what they count. -/
theorem Idle.surplus_eq_nil (h : s.Idle) {o : Operation} (d : Draws)
    (hn : ∀ email password, o = .login email password → ¬s.Halves email password) :
    o.surplus s.policy.tokens s.clock (s.perform o d).1 = [] := by
  by_cases hlate : (s.clock.add? s.policy.tokens.accessLifetime).isSome = true →
      (s.clock.add? s.policy.tokens.refreshLifetime).isSome = true
  · exact Operation.surplus_eq_nil hlate
  · obtain ⟨ha, hr⟩ := Classical.not_imp.1 hlate
    cases o with
    | login email password =>
      obtain ⟨c, hp⟩ := h.perform_login email password d
      cases hu : s.tables.authenticated s.policy.passwords email password with
      | none =>
        rw [hp, hu]
        exact Tokens.halved_badCredentials ..
      | some user =>
        refine absurd ⟨?_, ha, Option.not_isSome_iff_eq_none.1 hr⟩ (hn email password rfl)
        rw [hu]
        rfl
    | _ => cases Service.perform s _ d |>.1 <;> rfl

end Service

namespace Program.Tells

variable {α : Type} {post : Except Refusal α → List Event → Prop} {p : Program α}

theorem settle (hp : Tells post p) (s : Service) :
    ∃ es, Tells (fun r es' => post r (es ++ es')) (s.settle p).1 ∧
      (s.settle p).2.counters = es.foldl Counters.add s.counters := by
  induction hp generalizing s with
  | done h => exact ⟨[], .done h, rfl⟩
  | @count post e next _ ih =>
    obtain ⟨es, hes, hc⟩ := ih (s.count e)
    exact ⟨e :: es, hes, hc⟩
  | call h => exact ⟨[], .call h, rfl⟩

/-- One step tells the events up to the next call. -/
theorem advance (hp : Tells post p) (s : Service) (k : Agent) :
    ∃ es, Tells (fun r es' => post r (es ++ es')) (s.advance k p).1 ∧
      (s.advance k p).2.counters = es.foldl Counters.add s.counters ∧
      (s.advance k p).2.policy = s.policy ∧ (s.advance k p).2.clock = s.clock := by
  obtain ⟨es, hes, hc⟩ := hp.settle s
  obtain ⟨n, hn⟩ := s.settle_eq p
  rw [hn] at hes hc
  rw [Service.advance, hn]
  cases hs : p.settled with
  | done r =>
    rw [hs] at hes
    exact ⟨es, hes, hc, rfl, rfl⟩
  | count e next => exact absurd hs p.settled_ne_count
  | call c next =>
    rw [hs] at hes
    dsimp only
    cases hcall : Service.call { s with counters := n } k c with
    | none => exact ⟨es, hes, hc, rfl, rfl⟩
    | some answer =>
      obtain ⟨r, t⟩ := answer
      obtain ⟨store, rfl⟩ := Service.call_storing hcall
      cases hes with
      | call h =>
        obtain ⟨es', hes', hc'⟩ := (h r).settle { s with store, counters := n }
        obtain ⟨m, hm⟩ := Service.settle_eq (next r) { s with store, counters := n }
        dsimp only
        rw [hm] at hes' hc' ⊢
        refine ⟨es ++ es', hes'.mono fun r es'' h => ?_, ?_, rfl, rfl⟩
        · rwa [List.append_assoc]
        · rw [List.foldl_append, ← hc]
          exact hc'

end Program.Tells

namespace Task

/-- The result, if the task is at its end. -/
def result? (t : Task) : Option (Except Refusal t.operation.Result) := t.rest.bind Service.result?

/-- The kinds of the tokens that the task has handed out. -/
def given (t : Task) : List TokenKind := t.result?.elim [] t.operation.given

/-- The outcome of the redemption, if the task is one. -/
def redemptions (t : Task) : List String := t.result?.elim [] t.operation.redemptions

/-- What the task has counted so far, and that it will have counted what is reported of its result.
The clock that it read is one of `read`. -/
def HasTold (policy : TokenPolicy) (read : Instant → Prop) (t : Task) (es : List Event) : Prop :=
  ∃ p now, t.rest = some p ∧ read now ∧
    Tells (fun r es' => es ++ es' = t.operation.report policy now r) p

variable {policy : TokenPolicy} {read : Instant → Prop} {t : Task} {es : List Event}

theorem HasTold.move (h : t.HasTold policy read es) (a : Agent) (s : Service) :
    ∃ es', (t.move a s).1.HasTold policy read (es ++ es') ∧
      (t.move a s).2.counters = es'.foldl Counters.add s.counters ∧
      (t.move a s).2.policy = s.policy ∧ (t.move a s).2.clock = s.clock := by
  obtain ⟨o, d, rest, calls⟩ := t
  obtain ⟨(p : Program o.Result), now, (hrest : rest = some p), hnow, hp⟩ := h
  subst hrest
  obtain ⟨es', hes', hs⟩ := hp.advance s a
  refine ⟨es', ⟨_, now, rfl, hnow, hes'.mono fun r es'' h => ?_⟩, hs⟩
  rwa [List.append_assoc]

/-- At its end a task has counted what is reported of its result. -/
theorem HasTold.ended (h : t.HasTold policy read es) {r : Except Refusal t.operation.Result}
    (hr : t.result? = some r) : ∃ now, read now ∧ es = t.operation.report policy now r := by
  obtain ⟨p, now, hrest, hnow, hp⟩ := h
  rw [result?, hrest] at hr
  cases hp with
  | done h =>
    cases hr
    rw [List.append_nil] at h
    exact ⟨now, hnow, h⟩
  | count _ => cases hr
  | call _ => cases hr

end Task

namespace World

/-- The counters show what the tasks have told. -/
structure Accounted (policy : TokenPolicy) (read : Instant → Prop) (w : World)
    (told : Agent → List Event) : Prop where
  setup : w.service.policy.tokens = policy
  clock : read w.service.clock
  tasks : ∀ a (t : Task), w.tasks[a]? = some t → t.HasTold policy read (told a)
  others : ∀ a, w.tasks.length ≤ a → told a = []
  counts : ∀ e, w.service.counters.count e =
    ∑ a ∈ Finset.range w.tasks.length, (told a).count e

namespace Accounted

variable {policy : TokenPolicy} {read : Instant → Prop} {w : World} {told : Agent → List Event}

theorem start (h : w.Accounted policy read told) (o : Operation) (d : Draws) :
    (w.step (.start o d)).Accounted policy read told := by
  have hnew : told w.tasks.length = [] := h.others _ le_rfl
  refine ⟨h.setup, h.clock, fun a t ht => ?_, fun a ha => ?_, fun e => ?_⟩
  · rcases Nat.lt_trichotomy a w.tasks.length with ha | rfl | ha
    · rw [World.step, List.getElem?_append_left ha] at ht
      exact h.tasks a t ht
    · rw [World.step, List.getElem?_concat_length] at ht
      cases ht
      rw [hnew, ← h.setup]
      exact ⟨_, _, rfl, h.clock, o.program_tells w.service.policy w.service.clock d⟩
    · have hout : (w.step (.start o d)).tasks.length ≤ a := by
        rw [World.step, List.length_append]
        exact ha
      rw [List.getElem?_eq_none hout] at ht
      cases ht
  · refine h.others a (Nat.le_trans ?_ ha)
    rw [World.step, List.length_append]
    exact Nat.le_add_right ..
  · rw [World.step, List.length_append, List.length_singleton, Finset.sum_range_succ, hnew]
    exact h.counts e

theorem move (h : w.Accounted policy read told) (a : Agent) :
    ∃ told', (w.step (.move a)).Accounted policy read told' := by
  refine act_cases (P := fun v => ∃ told', v.Accounted policy read told') ⟨told, h⟩ fun t ht => ?_
  obtain ⟨es, htold, hc, hpolicy, hclock⟩ := (h.tasks a t ht).move a w.service
  have ha : a < w.tasks.length := (List.getElem?_eq_some_iff.1 ht).1
  refine ⟨Function.update told a (told a ++ es), (congrArg Policy.tokens hpolicy).trans h.setup,
    hclock ▸ h.clock, fun b u hu => ?_, fun b hb => ?_, fun e => ?_⟩
  · rw [replace, List.getElem?_set] at hu
    by_cases hb : a = b
    · subst hb
      rw [if_pos rfl, if_pos ha] at hu
      cases hu
      rwa [Function.update_self]
    · rw [if_neg hb] at hu
      rw [Function.update_of_ne (Ne.symm hb)]
      exact h.tasks b u hu
  · rw [replace, List.length_set] at hb
    rw [Function.update_of_ne (Nat.ne_of_gt (Nat.lt_of_lt_of_le ha hb))]
    exact h.others b hb
  · dsimp only [replace]
    have hm : a ∈ Finset.range w.tasks.length := Finset.mem_range.2 ha
    have hrest : ∀ b ∈ Finset.range w.tasks.length \ {a},
        (Function.update told a (told a ++ es) b).count e = (told b).count e := by
      intro b hb
      rw [Function.update_of_ne (Finset.notMem_singleton.1 (Finset.mem_sdiff.1 hb).2)]
    rw [hc, Counters.count_foldl, h.counts, List.length_set,
      ← Finset.sum_sdiff (Finset.singleton_subset_iff.2 hm),
      ← Finset.sum_sdiff (Finset.singleton_subset_iff.2 hm), Finset.sum_congr rfl hrest,
      Finset.sum_singleton, Finset.sum_singleton, Function.update_self, List.count_append,
      Nat.add_assoc]

theorem step (h : w.Accounted policy read told) {x : Action} (hdrop : ∀ a, x ≠ .drop a)
    (hread : ∀ now, x = .setClock now → read now) :
    ∃ told', (w.step x).Accounted policy read told' := by
  cases x with
  | start o d => exact ⟨told, h.start o d⟩
  | move a => exact h.move a
  | drop a => exact absurd rfl (hdrop a)
  | setClock now => exact ⟨told, h.setup, hread now rfl, h.tasks, h.others, h.counts⟩
  | setFaults tokenWrites commits => exact ⟨told, h.setup, h.clock, h.tasks, h.others, h.counts⟩

theorem after (h : w.Accounted policy read told) (actions : List Action)
    (hdrop : ∀ a, .drop a ∉ actions) (hread : ∀ now, .setClock now ∈ actions → read now) :
    ∃ told', (w.after actions).Accounted policy read told' := by
  induction actions generalizing w told with
  | nil => exact ⟨told, h⟩
  | cons x actions ih =>
    obtain ⟨told', h'⟩ := h.step (fun a hx => hdrop a (hx ▸ List.mem_cons_self ..))
      fun now hx => hread now (hx ▸ List.mem_cons_self ..)
    exact ih h' (fun a hx => hdrop a (List.mem_cons_of_mem _ hx)) fun now hx =>
      hread now (List.mem_cons_of_mem _ hx)

/-- When all tasks are at their end, what holds of the report of each task's result adds up. -/
theorem sum_of_ended (h : w.Accounted policy read told)
    (hended : ∀ t ∈ w.tasks, t.result?.isSome = true) {e : Event} {f : Task → Nat}
    (hf : ∀ (t : Task) (r : Except Refusal t.operation.Result) (now : Instant), t.result? = some r →
      read now → (t.operation.report policy now r).count e = f t) :
    w.service.counters.count e = (w.tasks.map f).sum := by
  rw [h.counts, Finset.sum_range, ← List.sum_ofFn]
  refine congrArg List.sum (List.ext_getElem (by simp) fun a _ ha => ?_)
  rw [List.length_map] at ha
  have ht : w.tasks[a]? = some w.tasks[a] := List.getElem?_eq_getElem ha
  obtain ⟨r, hr⟩ := Option.isSome_iff_exists.1 (hended _ (List.getElem_mem ha))
  obtain ⟨now, hnow, htold⟩ := (h.tasks a _ ht).ended hr
  rw [List.getElem_ofFn, List.getElem_map, htold]
  exact hf _ r now hr hnow

end Accounted

theorem start_accounted (policy : Policy) (timeoutMillis : Nat) (clock : Instant)
    (read : Instant → Prop) (h : read clock) :
    (World.start policy timeoutMillis clock).Accounted policy.tokens read fun _ => [] :=
  ⟨rfl, h, fun _ _ ht => absurd (List.mem_of_getElem? ht) List.not_mem_nil, fun _ _ => rfl,
    fun _ => rfl⟩

end World

theorem Refusal.label_ne_ok (e : Refusal) : e.label ≠ "ok" := by
  cases e <;> simp [label]

/-- An operation that is answered moves the counters by what it hands out and by the outcome of its
redemption, and by nothing else, unless it is a login whose access token has an expiry and whose
refresh token has none: that is refused when the access token is counted. No operation that is
carried out alone waits for its deadline. The counters of operations that run at the same time and
are all answered show what they hand out together. -/
theorem counters_account (s : Service) (o : Operation) (d : Draws) :
    (∀ r, s.Answers o d r →
      (s.perform o d).1 = r ∧
      (∀ kind, (s.perform o d).2.counters.count (.tokenIssued kind) =
        s.counters.count (.tokenIssued kind) + (o.given r).count kind +
          (o.surplus s.policy.tokens s.clock r).count kind) ∧
      (∀ outcome, (s.perform o d).2.counters.count (.redemption outcome) =
        s.counters.count (.redemption outcome) + (o.redemptions r).count outcome) ∧
      ((s.clock.add? s.policy.tokens.refreshLifetime).isSome = true →
        o.surplus s.policy.tokens s.clock r = [])) ∧
    (s.Idle → s.Answers o d (s.perform o d).1 ∧
      (∀ email password, s.Halves email password →
        (s.perform (.login email password) d).1 = .error (.internal
          s!"token lifetime {s.policy.tokens.refreshLifetime.text} out of range") ∧
        (Operation.login email password).surplus s.policy.tokens s.clock
          (s.perform (.login email password) d).1 = [.signed]) ∧
      ((∀ email password, o = .login email password → ¬s.Halves email password) →
        o.surplus s.policy.tokens s.clock (s.perform o d).1 = [])) ∧
    (∀ e, o.given (.error e) = []) ∧
    (∀ (invite : InviteId) (user : UserId) (r : Except Refusal Membership), ∃ outcome,
      (Operation.redeem invite user).redemptions r = [outcome] ∧
      (outcome = "ok" ↔ ∃ m, r = .ok m) ∧ ∀ e, r = .error e → outcome = e.label) ∧
    ∀ (policy : Policy) (timeoutMillis : Nat) (clock : Instant) (actions : List Action),
      (∀ a, .drop a ∉ actions) →
      let w := (World.start policy timeoutMillis clock).after actions
      (∀ t ∈ w.tasks, t.result?.isSome = true) →
      (∀ outcome, w.service.counters.count (.redemption outcome) =
        (w.tasks.map fun t => t.redemptions.count outcome).sum) ∧
      ((∀ now, now = clock ∨ .setClock now ∈ actions →
          (now.add? policy.tokens.refreshLifetime).isSome = true) →
        ∀ kind, w.service.counters.count (.tokenIssued kind) =
          (w.tasks.map fun t => t.given.count kind).sum) := by
  refine ⟨fun r hr => ⟨hr.perform, fun kind => ?_, fun outcome => ?_,
      fun h => Operation.surplus_eq_nil fun _ => h⟩,
    fun h => ⟨h.answers o d, fun email password hs => h.perform_halves hs d, h.surplus_eq_nil d⟩,
    fun e => ?_, fun invite user r => ?_, ?_⟩
  · rw [hr.counters (fun name h => by cases h), Operation.report_issued, Nat.add_assoc]
  · rw [hr.counters (fun name h => by cases h), Operation.report_redeemed]
  · cases o <;> rfl
  · cases r with
    | ok m => exact ⟨"ok", rfl, ⟨fun _ => ⟨m, rfl⟩, fun _ => rfl⟩, nofun⟩
    | error e =>
      refine ⟨e.label, rfl, ⟨fun h => absurd h e.label_ne_ok, nofun⟩, fun e' he => ?_⟩
      rw [Except.error.inj he]
  · intro policy timeoutMillis clock actions hdrop w hended
    have hstart := World.start_accounted policy timeoutMillis clock
      (fun now => now = clock ∨ .setClock now ∈ actions) (.inl rfl)
    obtain ⟨told, h⟩ := hstart.after actions hdrop fun now => .inr
    refine ⟨fun outcome => ?_, fun hread kind => ?_⟩
    · refine h.sum_of_ended hended fun t r now hr _ => ?_
      rw [Operation.report_redeemed, Task.redemptions, hr]
      rfl
    · refine h.sum_of_ended hended fun t r now hr hnow => ?_
      rw [Operation.report_issued, Operation.surplus_eq_nil fun _ => hread now hnow, Task.given, hr]
      rfl

namespace Sample

/-- A key is issued while two come for the one use of an invite. -/
def rush : List Action :=
  [.start (.createGroup owner " readers " none) (draws 1), .move 0, .move 0,
    .start (.createInvite owner group .member 1) (draws 2), .move 1, .move 1, .move 1, .move 1,
    .move 1, .start (.redeem invite stranger) (draws 3), .start (.redeem invite guest) (draws 4),
    .start (.issueApiKey owner) (draws 5), .move 2, .move 3, .move 4, .move 2, .move 2, .move 2,
    .move 4, .move 3, .move 3, .move 3]

end Sample

open Sample in
theorem counters_account_sample :
    (service.perform (.issueApiKey owner) (draws 5)).2.counters.count (.tokenIssued .secret) = 1 ∧
    let w := world.after rush
    (w.tasks.map fun t => t.given) = [[], [], [], [], [.secret]] ∧
      w.service.counters.count (.tokenIssued .secret) = 1 ∧
      w.service.counters.count (.tokenIssued .signed) = 0 ∧
      w.service.counters.count (.redemption "ok") = 1 ∧
      w.service.counters.count (.redemption "invite_exhausted") = 1 := by
  have hdrop (a : Agent) : .drop a ∉ rush := by simp [rush]
  have hended : ∀ t ∈ (world.after rush).tasks, t.result?.isSome = true := by
    have h : ((world.after rush).tasks.all fun t => t.result?.isSome) = true := by decide +kernel
    exact List.all_eq_true.1 h
  have hread (now : Instant) (h : now = clock ∨ .setClock now ∈ rush) :
      (now.add? policy.tokens.refreshLifetime).isSome = true := by
    rcases h with rfl | h
    · decide
    · simp [rush] at h
  obtain ⟨hcounts, hidle, -, -, htotal⟩ := counters_account service (.issueApiKey owner) (draws 5)
  obtain ⟨-, halone, -, -⟩ := hcounts _ (hidle (Service.start_idle policy 5000 clock)).1
  obtain ⟨hredeemed, hissued⟩ := htotal policy 5000 clock rush hdrop hended
  have hissued := hissued hread
  exact ⟨(halone .secret).trans (by decide +kernel), by decide +kernel,
    (hissued .secret).trans (by decide +kernel), (hissued .signed).trans (by decide +kernel),
    (hredeemed "ok").trans (by decide +kernel), (hredeemed "invite_exhausted").trans (by decide +kernel)⟩

namespace Sample

/-- Refresh tokens that no clock can tell the expiry of. -/
def overlong : TokenPolicy := ⟨"signing", 15, 9223372036854775807, 30⟩

theorem entered_halves : (entered overlong).Halves "a@b.c" ⟨""⟩ := by
  have ha : (entered overlong).tables.authenticated openPolicy.passwords "a@b.c" ⟨""⟩ =
      some account := Tables.authenticated_eq_some.2 ⟨entered_account overlong, account_verify⟩
  refine ⟨?_, ?_, ?_⟩
  · rw [entered_policy, ha]
    rfl
  · rw [entered_policy, entered_clock]
    decide
  · rw [entered_policy, entered_clock]
    decide

end Sample

open Sample in
/-- A login is refused and yet counted as a token that was issued. -/
theorem issued_at_refusal :
    let s := entered overlong
    (s.perform (.login "a@b.c" ⟨""⟩) (draws 5)).1 =
        .error (.internal "token lifetime PT9223372036854775.807S out of range") ∧
      s.counters.count (.tokenIssued .signed) = 0 ∧
      (s.perform (.login "a@b.c" ⟨""⟩) (draws 5)).2.counters.count (.tokenIssued .signed) = 1 := by
  intro s
  have hi : s.Idle := entered_idle overlong
  obtain ⟨hr, hsurplus⟩ := hi.perform_halves entered_halves (draws 5)
  have hentered : s.counters.count (.tokenIssued .signed) = 0 :=
    ((Service.start_idle _ _ _).answers _ _).counters fun name h => by cases h
  have hlogin := (hi.answers (.login "a@b.c" ⟨""⟩) (draws 5)).counters (e := .tokenIssued .signed)
    fun name h => by cases h
  rw [Operation.report_issued, hsurplus, hentered, hr] at hlogin
  refine ⟨?_, hentered, hlogin⟩
  have htext : s.policy.tokens.refreshLifetime.text = "PT9223372036854775.807S" := by
    rw [show s.policy = _ from entered_policy overlong]
    decide +kernel
  rw [hr, htext]
  rfl

end GroupAccess
