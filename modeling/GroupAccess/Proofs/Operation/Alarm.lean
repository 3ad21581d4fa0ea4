import GroupAccess.Proofs.Service.Alike
import GroupAccess.Proofs.Service.Idle

namespace GroupAccess

open Program

namespace Program

variable {α β : Type}

/-- The program ends in an internal refusal, whatever the store answers. -/
inductive Doomed : Program α → Prop
  | done (text : String) : Doomed (.done (.error (.internal text)))
  | count (e : Event) {next : Program α} (h : Doomed next) : Doomed (.count e next)
  | call (c : Call) {next : Except StoreFailure c.Result → Program α}
      (h : ∀ r, Doomed (next r)) : Doomed (.call c next)

/-- A failure of the database dooms the program. What happens when a transaction is taken back is
left out: nobody is told of it. -/
inductive Alert : Program α → Prop
  | done (r : Except Refusal α) : Alert (.done r)
  | count (e : Event) {next : Program α} (h : Alert next) : Alert (.count e next)
  | call (c : Call) {next : Except StoreFailure c.Result → Program α} (h : ∀ r, Alert (next r))
      (hd : c.method ≠ .rollback → ∀ text, Doomed (next (.error (.database text)))) :
      Alert (.call c next)

theorem Doomed.bind {p : Program α} (h : Doomed p) (f : α → Program β) : Doomed (p.bind f) := by
  induction h with
  | done text => exact done text
  | count e _ ih => exact count e ih
  | call c _ ih => exact call c ih

theorem Doomed.catching {p : Program α} (h : Doomed p) {f : Refusal → Program α}
    (hf : ∀ text, Doomed (f (.internal text))) : Doomed (p.catching f) := by
  induction h with
  | done text => exact hf text
  | count e _ ih => exact count e ih
  | call c _ ih => exact call c ih

namespace Alert

variable {p q : Program α}

theorem bind {f : α → Program β} (hp : Alert p) (hf : ∀ a, Alert (f a)) : Alert (p.bind f) := by
  induction hp with
  | done r =>
    cases r with
    | ok a => exact hf a
    | error e => exact done _
  | count e _ ih => exact count e ih
  | call c _ hd ih => exact call c ih fun hc text => (hd hc text).bind f

theorem catching {f : Refusal → Program α} (hp : Alert p) (hf : ∀ e, Alert (f e))
    (hd : ∀ text, Doomed (f (.internal text))) : Alert (p.catching f) := by
  induction hp with
  | done r =>
    cases r with
    | ok a => exact done _
    | error e => exact hf e
  | count e _ ih => exact count e ih
  | call c _ hdoomed ih => exact call c ih fun hc text => (hdoomed hc text).catching hd

theorem ask (c : Call) {g : StoreFailure → Refusal}
    (hg : ∀ text, ∃ cause, g (.database text) = .internal cause) : Alert (Program.ask c g) := by
  refine call c (fun r => ?_) fun _ text => ?_
  · cases r with
    | ok a => exact done _
    | error e => exact done _
  · obtain ⟨cause, h⟩ := hg text
    have hn : Doomed (.done (.error (g (.database text))) : Program c.Result) := h ▸ .done cause
    exact hn

theorem asking (c : Call) : Alert (Program.ask c) := ask c fun _ => ⟨_, rfl⟩

theorem require (e : Refusal) (a : Option α) : Alert (Program.require e a) := by
  cases a with
  | none => exact done _
  | some a => exact done _

theorem ite {c : Prop} [Decidable c] (hp : Alert p) (hq : Alert q) :
    Alert (if c then p else q) := by
  by_cases h : c
  · rwa [if_pos h]
  · rwa [if_neg h]

theorem countingRefusal {event : Refusal → Event} (hp : Alert p) :
    Alert (p.countingRefusal event) :=
  hp.catching (fun _ => .count _ (.done _)) fun text => .count _ (.done text)

end Alert

end Program

theorem authenticate_alert (policy : PasswordPolicy) (email : String) (password : Password) :
    Alert (Accounts.authenticate policy email password) := by
  refine .bind (.asking (.findUserByEmail _)) fun found => ?_
  cases found with
  | none => exact .count _ (.done _)
  | some user => exact .ite (.done _) (.count _ (.done _))

theorem issueSigned_alert (policy : TokenPolicy) (now : Instant) (user : UserId)
    (audience : Audience) (lifetime : Span) (serial : Uuid) :
    Alert (Tokens.issueSigned policy now user audience lifetime serial) :=
  .bind (.done _) fun _ => .bind (.count _ (.done _)) fun _ => .done _

theorem issueSecret_alert (now : Instant) (user : UserId) (lifetime : Option Span) (id : TokenId)
    (secret : Secret) : Alert (Tokens.issueSecret now user lifetime id secret) := by
  refine .bind (.done _) fun expiry => .bind (.ask (.createToken _) fun _ => ⟨_, rfl⟩) fun _ => ?_
  exact .bind (.count _ (.done _)) fun _ => .done _

theorem whileRegistered_alert (user : UserId) : Alert (Tokens.whileRegistered user) :=
  .bind (.asking (.userExists user)) fun _ => .ite (.done _) (.done _)

theorem resolve_alert (policy : TokenPolicy) (now : Instant) (text : String) :
    Alert (Tokens.resolve policy now text) := by
  refine .bind (.require _ _) fun presented => ?_
  cases presented with
  | signed header claims signature =>
    exact .bind (.require _ _) fun user => whileRegistered_alert user
  | secret s =>
    refine .bind (.bind (.asking (.findToken _)) fun record => ?_) whileRegistered_alert
    exact .bind (.require _ _) fun record => .ite (.done _) (.done _)

theorem refresh_alert (policy : TokenPolicy) (now : Instant) (text : String) (serial : Uuid) :
    Alert (Tokens.refresh policy now text serial) := by
  refine .bind (.require _ _) fun presented => ?_
  cases presented with
  | signed header claims signature =>
    refine .bind (.require _ _) fun user => ?_
    exact .bind (whileRegistered_alert user) fun user => issueSigned_alert ..
  | secret s => exact .done _

theorem resolveRole_alert (user : UserId) (group : GroupId) :
    Alert (Groups.resolveRole user group) := by
  refine .bind (.asking (.findMembership user group)) fun m => .bind (.require _ _) fun m => ?_
  exact .bind (.asking (.findRole _)) fun r => .bind (.require _ _) fun r => .done _

theorem redeem_alert (invite : InviteId) (user : UserId) : Alert (Invites.redeem invite user) := by
  refine .bind (.countingRefusal ?_) fun m => .bind (.count _ (.done _)) fun _ => .done _
  refine .bind (.asking .begin) fun _ => .bind ?_ fun m =>
    .bind (.ask .commit fun _ => ⟨_, rfl⟩) fun _ => .done _
  refine .catching ?_ (fun e => .call .rollback (fun _ => .done _) fun hc => absurd rfl hc)
    fun text => .call .rollback fun _ => .done text
  refine .bind (.ask (.decrement invite) fun _ => ⟨_, rfl⟩) fun grant => ?_
  exact .bind (.ask (.insertMembership _) fun _ => ⟨_, rfl⟩) fun _ => .done _

/-- No operation goes on as if nothing had happened when the database fails. -/
theorem program_alert (policy : Policy) (now : Instant) (d : Draws) (o : Operation) :
    Alert (o.program policy now d) := by
  cases o with
  | register email password =>
    rw [Operation.program, Accounts.register_eq]
    refine .ite (.bind (.asking (.findUserByEmail _)) fun found => ?_) (.done _)
    refine .ite (.done _) (.bind (.done _) fun _ => .bind (.done _) fun hash => ?_)
    exact .bind (.ask (.createUser _) fun _ => ⟨_, rfl⟩) fun _ => .done _
  | issueToken email password kind =>
    simp only [Operation.program, Accounts.issueToken, bind_eq]
    refine .bind (.require _ _) fun kind => .bind (authenticate_alert ..) fun user => ?_
    cases kind with
    | signed => exact issueSigned_alert ..
    | secret => exact issueSecret_alert ..
  | login email password =>
    refine .bind (authenticate_alert ..) fun user => ?_
    exact .bind (issueSigned_alert ..) fun _ => .bind (issueSigned_alert ..) fun _ => .done _
  | refresh token => exact (refresh_alert ..).countingRefusal
  | resolveToken token => exact (resolve_alert ..).countingRefusal
  | issueApiKey user => exact issueSecret_alert ..
  | findUser user => exact .bind (.asking (.findUser user)) fun found => .require _ _
  | createGroup owner name description =>
    rw [Operation.program, Groups.create_eq]
    refine .ite (.done _) (.bind (.asking (.createRole .full d.role)) fun role => ?_)
    exact .bind (.ask (.createGroup ..) fun _ => ⟨_, rfl⟩) fun _ => .done _
  | findGroup group => exact .bind (.asking (.findGroup group)) fun found => .require _ _
  | resolveRole user group => exact resolveRole_alert ..
  | createInvite actor group role uses =>
    rw [Operation.program, Invites.create_eq]
    refine .ite (.done _) (.bind (.asking (.findGroup group)) fun found => ?_)
    refine .ite (.done _) (.bind ?_ fun own => ?_)
    · exact (resolveRole_alert ..).catching (fun _ => .done _) fun text => .done text
    refine .ite (.ite (.bind (.asking (.createRole role d.role)) fun roleId => ?_) (.done _))
      (.done _)
    exact .bind (.asking (.createInvite _)) fun _ => .done _
  | redeem invite user => exact redeem_alert ..
  | deleteUser user => exact .asking (.deleteUser user)
  | purgeTokens => exact .asking (.purgeTokens now)
  | createRole role => exact .asking (.createRole role d.role)
  | findRoleId role => exact .asking (.findRoleId role)
  | inviteUsable invite group => exact .asking (.inviteUsable invite group)
  | health => exact .asking .health

/-- The failure that an answer reports. -/
def Call.report (c : Call) : Except StoreFailure c.Result → List StoreFailure
  | .ok _ => []
  | .error e => if c.method = .rollback then [] else [e]

theorem Call.mem_report {c : Call} {r : Except StoreFailure c.Result} {e : StoreFailure}
    (h : e ∈ c.report r) : c.method ≠ .rollback ∧ r = .error e := by
  cases r with
  | ok a => cases h
  | error e' =>
    rw [report] at h
    split at h
    · cases h
    · cases List.mem_singleton.1 h
      exact ⟨‹_›, rfl⟩

namespace Service

variable {α : Type} {s : Service} {k : Agent}

/-- The failures that the store reports to a program, in their order. -/
def failures (k : Agent) : Program α → Service → List StoreFailure
  | .done _, _ => []
  | .count e next, s => failures k next (s.count e)
  | .call c next, s =>
    match s.call k c with
    | some (r, s) => c.report r ++ failures k (next r) s
    | none => []

/-- The failures that the store reports to an operation. -/
def reported (s : Service) (o : Operation) (d : Draws) : List StoreFailure :=
  failures worker (o.program s.policy s.clock d) s

/-- There is no result but an internal refusal. -/
def Alarmed (x : Option (Except Refusal α)) : Prop :=
  ∀ r, x = some r → ∃ text, r = .error (.internal text)

theorem run_doomed {p : Program α} (h : Doomed p) (s : Service) : Alarmed (run k p s).1 := by
  induction h generalizing s with
  | done text =>
    intro r hr
    exact ⟨text, (Option.some.inj hr).symm⟩
  | count e _ ih => exact ih _
  | call c _ ih =>
    rw [run]
    split
    · exact ih _ _
    · intro r hr
      cases hr

/-- Wherever in a run the database fails. -/
theorem run_alert {p : Program α} (h : Alert p) {text : String}
    (hf : .database text ∈ failures k p s) : Alarmed (run k p s).1 := by
  induction h generalizing s with
  | done r => cases hf
  | count e _ ih => exact ih hf
  | @call c next _ hd ih =>
    rw [failures] at hf
    split at hf
    · rename_i r t hc
      rw [run_call hc]
      rcases List.mem_append.1 hf with hr | hf
      · obtain ⟨hm, rfl⟩ := Call.mem_report hr
        exact run_doomed (hd hm text) t
      · exact ih r hf
    · cases hf

/-- An operation to which the store reports a failure of the database is refused as internal. -/
theorem perform_alert {o : Operation} {d : Draws} {text : String}
    (hf : .database text ∈ s.reported o d) :
    ∃ cause, (s.perform o d).1 = .error (.internal cause) := by
  have hr := run_alert (program_alert s.policy s.clock d o) hf
  rw [perform_run]
  cases hrun : (run worker (o.program s.policy s.clock d) s).1 with
  | none => exact ⟨_, rfl⟩
  | some r => exact hr r hrun

/-- A failure that is planned for the first call of an operation is reported. -/
theorem mem_reported {o : Operation} {d : Draws} {c : Call}
    {next : Except StoreFailure c.Result → Program o.Result} {e : StoreFailure}
    (hp : o.program s.policy s.clock d = .call c next) (he : s.plan c.method = some e)
    (hm : c.method ≠ .rollback) : e ∈ s.reported o d := by
  have hr : c.report (.error e) = [e] := if_neg hm
  rw [reported, hp, failures, call_planned he]
  dsimp only
  rw [hr]
  exact List.mem_cons_self ..

variable {m : Method} {e : StoreFailure}

theorem call_failing {c : Call} (hm : c.method ≠ m) :
    (s.failing m e).call k c = (s.call k c).map fun x => (x.1, x.2.failing m e) := by
  have hplan : (s.failing m e).plan c.method = s.plan c.method := if_neg hm
  cases hp : s.plan c.method with
  | some f =>
    rw [call_planned hp, call_planned (hplan.trans hp)]
    rfl
  | none =>
    rw [call_unplanned hp, call_unplanned (hplan.trans hp), Option.map_map]
    rfl

theorem run_failing {p : Program α} (hp : Calls (fun c => c.method ≠ m) p) (s : Service) :
    run k p (s.failing m e) = ((run k p s).1, (run k p s).2.failing m e) := by
  induction hp generalizing s with
  | done r => rfl
  | count ev _ ih => exact ih (s.count ev)
  | @call c next hc _ ih =>
    rw [run, run, call_failing hc]
    cases s.call k c with
    | none => rfl
    | some x => exact ih x.1 x.2

theorem perform_failing {o : Operation} (hm : m ∉ o.methods) (d : Draws) :
    (s.failing m e).perform o d = ((s.perform o d).1, (s.perform o d).2.failing m e) := by
  have hc : Calls (fun c => c.method ≠ m) (o.program s.policy s.clock d) :=
    (program_calls s.policy s.clock d o).mono fun c hc heq => hm (heq ▸ hc)
  have hr : run worker (o.program (s.failing m e).policy (s.failing m e).clock d) (s.failing m e) =
    _ := run_failing hc s
  rw [perform_run, perform_run, hr]
  rfl

end Service

end GroupAccess
