import GroupAccess.Proofs.Interleaving.Reliance
import GroupAccess.Proofs.Session.Deletion
import GroupAccess.Proofs.Store.Answered
import GroupAccess.Proofs.Store.Frame
import GroupAccess.Proofs.Token.Audience

namespace GroupAccess

open Step

/-- A user that is stored has a valid address, in normal form. -/
def Call.Proper (c : Call) : Prop :=
  ∀ u, c = .createUser u → Email.normalize u.email = u.email ∧ Email.isValid u.email = true

theorem Call.proper_of_other {c : Call} (h : c.method ≠ .createUser) : c.Proper := by
  rintro u rfl
  exact absurd rfl h

theorem Call.proper_rollback : Call.Proper .rollback := proper_of_other nofun

theorem Accounts.register_proper (policy : PasswordPolicy) (now : Instant) (email : String)
    (password : Password) (id : UserId) (salt : Password.Salt) :
    Program.Calls Call.Proper (register policy now email password id salt) := by
  rw [register_eq]
  split
  · rename_i hvalid
    refine .bind (.ask _ (Call.proper_of_other fun h => nomatch h)) fun found => ?_
    split
    · exact .done _
    refine .bind (.done _) fun _ => .bind (.done _) fun hash => ?_
    refine .bind (.ask _ ?_) fun _ => .done _
    rintro u ⟨⟩
    exact ⟨Email.normalize_normalize email, hvalid⟩
  · exact .done _

theorem program_proper (policy : Policy) (now : Instant) (d : Draws) (o : Operation) :
    Program.Calls Call.Proper (o.program policy now d) := by
  have hplain {o : Operation} (hm : .createUser ∉ o.methods) :
      Program.Calls Call.Proper (o.program policy now d) :=
    (program_calls policy now d o).mono fun c hc => Call.proper_of_other fun he => hm (he ▸ hc)
  cases o with
  | register email password =>
    exact Accounts.register_proper policy.passwords now email password d.user d.salt
  | _ => exact hplain (by simp [Operation.methods])

namespace Tables

variable {t : Tables} {u : User}

/-- The accounts are sound, and their addresses are valid. -/
structure AccountsSound (t : Tables) : Prop where
  users : UsersSound t.users
  valid : ∀ id u, t.users.get? id = some u → Email.isValid u.email = true

theorem AccountsSound.empty : AccountsSound {} :=
  ⟨Consistent.empty.users, fun _ _ hu => nomatch hu⟩

theorem AccountsSound.congr {t' : Tables} (h : t.AccountsSound) (hu : t'.users = t.users) :
    t'.AccountsSound := by
  obtain ⟨husers, hvalid⟩ := h
  rw [← hu] at husers hvalid
  exact ⟨husers, hvalid⟩

/-- What a registration that succeeds has made of the address and the password. -/
theorem registered_ok {policy : PasswordPolicy} {now : Instant} {email : String}
    {password : Password} {id : UserId} {salt : Password.Salt}
    (h : (t.registered policy now email password id salt).1 = .ok u) :
    u.email = Email.normalize email ∧
      password.hash policy.serverSecret policy.maxBytes salt = .ok u.passwordHash ∧
      (t.registered policy now email password id salt).2.users = t.users.insert u.id u := by
  unfold registered at h ⊢
  split at h
  · cases h
  split at h
  · cases h
  split at h
  · cases h
  · cases h
  · rename_i hv hf _ _ _ hash hstrength hhash
    cases h
    refine ⟨rfl, hhash, ?_⟩
    rw [if_neg hv, if_neg hf]

end Tables

/-- No call that operations make brings an account that is not sound. -/
theorem Store.call_accountsSound {s s' : Store} {a : Agent} {c : Call}
    {r : Except StoreFailure c.Result} (h : s.tables.AccountsSound) (hp : c.Proper)
    (hc : s.call a c = some (r, s')) : s'.tables.AccountsSound := by
  cases c with
  | createUser u =>
    rw [call] at hc
    obtain rfl | ⟨t, ht, -, rfl⟩ := write_cases hc
    · exact h
    unfold Tables.createUser at ht
    split at ht
    · cases ht
    rename_i hfree
    cases ht
    obtain ⟨hnormal, hvalid⟩ := hp u rfl
    refine ⟨h.users.register hnormal (Option.not_isSome_iff_eq_none.1 hfree), fun id v hv => ?_⟩
    rcases Table.get?_insert_cases hv with ⟨-, rfl⟩ | hv
    · exact hvalid
    · exact h.valid id v hv
  | deleteUser user =>
    rw [call] at hc
    obtain ⟨-, rfl⟩ := atomic_eq_some hc
    dsimp only
    split
    · exact ⟨h.users.erase user, fun id v hv => h.valid id v (Table.get?_filter_eq_some.1 hv).1⟩
    · exact h
  | createToken record =>
    obtain rfl | ⟨-, rfl⟩ := call_createToken hc
    · exact h
    · exact h.congr rfl
  | findUserByEmail _ | findUser _ | userExists _ | findToken _ | purgeTokens _ =>
    rw [call] at hc
    obtain ⟨-, rfl⟩ := atomic_eq_some hc
    exact h.congr rfl
  | _ => exact h.congr (s.call_accounts a rfl hc).1

/-- An account stays as it is, unless the operation is its deletion. -/
theorem Outcome.keeps_user {now : Instant} {d : Draws} {t t' : Tables} {o : Operation}
    {r : Except Refusal o.Result} (ho : Outcome now d t o r t') {id : UserId} {u : User}
    (hd : o ≠ .deleteUser id) (hid : id ≠ d.user) (hu : t.users.get? id = some u) :
    t'.users.get? id = some u := by
  cases ho with
  | refused | kept | secretStored | purged | redeemed => exact hu
  | registered hown =>
    rw [← hown] at hid
    exact (Table.get?_insert ..).trans ((if_neg hid).trans hu)
  | @deleted gone =>
    have hne : id ≠ gone := fun he => hd (he ▸ rfl)
    exact (Table.get?_erase ..).trans ((if_neg hne).trans hu)
  | roleStored | nameTaken | founded | invited =>
    simp only [Tables.createInvite, Tables.createRole_users]
    exact hu

namespace Service

/-- Among the steps from `s` on, a deletion of the user takes place. -/
def Deletes (s : Service) (steps : List Step) (user : UserId) : Prop :=
  ∃ pre d post, steps = pre ++ .perform (.deleteUser user) d :: post ∧
    ((s.after pre).perform (.deleteUser user) d).1 = .ok true

variable {s : Service}

theorem Idle.accountsSound_after (h : s.Idle) (ht : s.tables.AccountsSound) (steps : List Step) :
    (s.after steps).tables.AccountsSound := by
  have hP := Reliance.Preserves.of_calls Call.proper_rollback program_proper
    Store.call_accountsSound
  exact hP.session h ht steps

theorem Idle.accountsSound_step (h : s.Idle) (ht : s.tables.AccountsSound) (x : Step) :
    (s.step x).tables.AccountsSound :=
  h.accountsSound_after ht [x]

theorem Reached.accountsSound {policy : Policy} {timeoutMillis : Nat} {clock : Instant}
    (h : s.Reached policy timeoutMillis clock) : s.tables.AccountsSound :=
  h.kept Call.proper_rollback program_proper Store.call_accountsSound .empty

/-- The account that a registration makes. -/
theorem Idle.registered (h : s.Idle) {email : String} {password : Password} {d : Draws} {u : User}
    (hu : (s.perform (.register email password) d).1 = .ok u) :
    u.email = Email.normalize email ∧
      password.hash s.policy.passwords.serverSecret s.policy.passwords.maxBytes d.salt =
        .ok u.passwordHash ∧
      (s.step (.perform (.register email password) d)).tables.users.get? u.id = some u := by
  obtain ⟨hanswer, htables⟩ := h.perform_register email password d
  rw [hanswer] at hu
  obtain ⟨hemail, hhash, husers⟩ := Tables.registered_ok hu
  refine ⟨hemail, hhash, ?_⟩
  rw [Service.step, htables, husers, Table.get?_insert_self]

/-- An account stays as it is until it is deleted. -/
theorem Idle.account_after (h : s.Idle) {id : UserId} {u : User}
    (hu : s.tables.users.get? id = some u) (later : List Step)
    (hnew : id ∉ drawn Draws.user later) (hd : ¬s.Deletes later id) :
    (s.after later).tables.users.get? id = some u := by
  induction later using List.reverseRecOn with
  | nil => exact hu
  | append_singleton later x ih =>
    rw [drawn_append, List.mem_append, not_or] at hnew
    have hbefore := ih hnew.1 fun hd' => hd (by
      obtain ⟨pre, d, post, rfl, ha⟩ := hd'
      exact ⟨pre, d, post ++ [x], by rw [List.append_assoc, List.cons_append], ha⟩)
    have hi := h.after later
    rw [after_concat]
    cases hx : x.draws with
    | none =>
      rw [step_tables hx]
      exact hbefore
    | some d =>
      cases x with
      | perform o d =>
        refine (hi.step_outcome o d).keeps_user ?_ ?_ hbefore
        · rintro rfl
          obtain ⟨hanswer, -⟩ := hi.perform_deleteUser id d
          rw [Table.contains_eq_true.2 ⟨u, hbefore⟩] at hanswer
          exact hd ⟨later, d, [], rfl, hanswer⟩
        · rintro rfl
          exact hnew.2 (List.mem_singleton_self _)
      | setClock now => cases hx
      | setFaults tokenWrites commits => cases hx

/-- Writes of tokens succeed, and the expiries of all tokens are instants. -/
structure Healthy (s : Service) : Prop where
  writes : s.store.failsTokenWrites = false
  access : (s.clock.add? s.policy.tokens.accessLifetime).isSome = true
  refresh : (s.clock.add? s.policy.tokens.refreshLifetime).isSome = true
  secret : (s.clock.add? s.policy.tokens.secretLifetime).isSome = true

theorem Healthy.lifetime (h : s.Healthy) (kind : TokenKind) :
    (s.clock.add? (s.policy.tokens.lifetime kind)).isSome = true := by
  cases kind with
  | signed => exact h.access
  | secret => exact h.secret

theorem Healthy.paired (h : s.Healthy) (user : UserId) (first second : Uuid) :
    ∃ pair, Tokens.paired s.policy.tokens s.clock user first second = .ok pair := by
  obtain ⟨expiry, ha⟩ := Option.isSome_iff_exists.1 h.access
  obtain ⟨expiry', hr⟩ := Option.isSome_iff_exists.1 h.refresh
  rw [Tokens.paired, Tokens.signed_of_add? ha, Tokens.signed_of_add? hr]
  exact ⟨_, rfl⟩

namespace Idle

section

variable {email : String} {u : User} (h : s.Idle) (hs : s.Healthy)
  (hf : s.tables.findUserByEmail (Email.normalize email) = some u)
  (hu : s.tables.users.contains u.id = true) (password : Password) (d : Draws)

include h hs hf hu

/-- Whoever has the password of an account gets a token of the kind that is asked for. -/
theorem issueToken_account {kind : String} {known : TokenKind}
    (hk : TokenKind.ofText? kind = some known)
    (hn : known = .secret → s.tables.tokens.contains d.secret.digest = false) :
    if password.verify u.passwordHash s.policy.passwords.serverSecret then
      ∃ token, (s.perform (.issueToken email password kind) d).1 = .ok token ∧
        ∀ d', ((s.perform (.issueToken email password kind) d).2.perform
          (.resolveToken token.text) d').1 =
            if 0 ≤ (s.policy.tokens.lifetime known).nanos then .ok u.id else .error .tokenInvalid
    else (s.perform (.issueToken email password kind) d).1 = .error .badCredentials := by
  obtain ⟨c, hp⟩ := h.perform_issueToken hk email password d
  split
  · rename_i hv
    rw [Tables.authenticated_eq_some.2 ⟨hf, hv⟩] at hp
    obtain ⟨token, ht⟩ : ∃ token, (s.tables.issued s.store.failsTokenWrites s.policy.tokens s.clock
        u.id d known).1 = .ok token := Tables.issued_ok hs.writes hn (hs.lifetime known)
    refine ⟨token, by rw [hp]; exact ht, fun d' => ?_⟩
    rw [hp, (h.leaving _ c).perform_resolveToken]
    have hb := Tables.issued_bearer? ht hu
    exact (congrArg Tokens.answer hb).trans (Tokens.answer_ite ..)
  · rename_i hv
    rw [hp, Tables.authenticated_mismatch hf hv]

/-- Whoever has the password of an account gets a pair of tokens. -/
theorem login_account :
    if password.verify u.passwordHash s.policy.passwords.serverSecret then
      ∃ pair, (s.perform (.login email password) d).1 = .ok pair ∧
        ∀ d', ((s.perform (.login email password) d).2.perform (.resolveToken pair.access) d').1 =
          if 0 ≤ s.policy.tokens.accessLifetime.nanos then .ok u.id else .error .tokenInvalid
    else (s.perform (.login email password) d).1 = .error .badCredentials := by
  obtain ⟨c, hp⟩ := h.perform_login email password d
  split
  · rename_i hv
    rw [Tables.authenticated_eq_some.2 ⟨hf, hv⟩] at hp
    obtain ⟨pair, hpair⟩ := hs.paired u.id d.serial d.nextSerial
    refine ⟨pair, by rw [hp]; exact hpair, fun d' => ?_⟩
    have hlater : s.Alongside (s.perform (.login email password) d).2 u.id := by
      rw [hp]
      exact ⟨h.leaving _ c, rfl, rfl, hu⟩
    exact paired_access hpair hlater d'
  · rename_i hv
    rw [hp, Tables.authenticated_mismatch hf hv]
    rfl

end

section

variable {email : String} (h : s.Idle) (password : Password) (d : Draws)

include h

/-- Credentials without an account are refused just as a wrong password is. -/
theorem refuses_unknown (hf : s.tables.findUserByEmail (Email.normalize email) = none) :
    (s.perform (.login email password) d).1 = .error .badCredentials ∧
      ∀ kind known, TokenKind.ofText? kind = some known →
        (s.perform (.issueToken email password kind) d).1 = .error .badCredentials := by
  have hno : s.tables.authenticated s.policy.passwords email password = none := by
    refine Tables.authenticated_eq_none.2 fun v hfound => ?_
    rw [hf] at hfound
    cases hfound
  refine ⟨?_, fun kind known hk => ?_⟩
  · obtain ⟨c, hp⟩ := h.perform_login email password d
    rw [hp, hno]
    rfl
  · obtain ⟨c, hp⟩ := h.perform_issueToken hk email password d
    rw [hp, hno]

/-- An address that is taken is not registered again, and nothing changes. -/
theorem refuses_taken {u : User}
    (hf : s.tables.findUserByEmail (Email.normalize email) = some u)
    (hv : Email.isValid (Email.normalize email) = true) :
    (s.perform (.register email password) d).1 = .error .emailAlreadyInUse ∧
      (s.perform (.register email password) d).2.store = s.store := by
  have hanswer : (s.perform (.register email password) d).1 = .error .emailAlreadyInUse := by
    rw [(h.perform_register email password d).1, Tables.registered, hf, hv]
    rfl
  obtain ⟨t, c, hp, ho⟩ := h.perform_outcome (.register email password) d
  rw [hanswer] at ho
  cases ho
  exact ⟨hanswer, by rw [hp]; rfl⟩

end

end Idle

end Service

theorem TokenKind.ofText?_eq_some {kind : String} {known : TokenKind} :
    ofText? kind = some known ↔ Text.asciiLowercase kind = known.name := by
  have hne : ¬"opaque" = "signed" := by decide
  cases known with
  | signed => grind [ofText?, ofName?, name]
  | secret => grind [ofText?, ofName?, name]

open Service in
/-- An account from its registration to its deletion, wherever operations have led to before it. The
password that it was registered with matches its hash. Wherever tokens can be written and expiries
are instants, its address, however it is written, and a password that matches are exchanged for
tokens of its own, which are good at that instant if their lifetime is not negative. A wrong password
and an address without an account are refused alike, a kind of token that is not known is refused
before that, and an address with an account is not registered again, in which nothing changes. -/
theorem account_until_deleted (policy : Policy) (timeoutMillis : Nat) (clock : Instant)
    (past : Service) (hr : past.Reached policy timeoutMillis clock)
    (hheld : past.store.held = none) (later : List Step) (email : String) (password : Password)
    (d : Draws) (u : User) (hu : (past.perform (.register email password) d).1 = .ok u)
    (hnew : u.id ∉ drawn Draws.user later)
    (hd : ¬(past.step (.perform (.register email password) d)).Deletes later u.id) :
    let s := (past.step (.perform (.register email password) d)).after later
    let matching (password : Password) : Bool :=
      password.verify u.passwordHash past.policy.passwords.serverSecret
    matching password = true ∧
      (s.Healthy → ∀ email' password' d', Email.normalize email' = Email.normalize email →
        (∀ kind known, Text.asciiLowercase kind = known.name →
          (known = .secret → s.tables.tokens.contains d'.secret.digest = false) →
          if matching password' then
            ∃ token, (s.perform (.issueToken email' password' kind) d').1 = .ok token ∧
              ∀ d'', ((s.perform (.issueToken email' password' kind) d').2.perform
                (.resolveToken token.text) d'').1 =
                  if 0 ≤ (past.policy.tokens.lifetime known).nanos then .ok u.id
                  else .error .tokenInvalid
          else (s.perform (.issueToken email' password' kind) d').1 = .error .badCredentials) ∧
        if matching password' then
          ∃ pair, (s.perform (.login email' password') d').1 = .ok pair ∧
            ∀ d'', ((s.perform (.login email' password') d').2.perform
              (.resolveToken pair.access) d'').1 =
                if 0 ≤ past.policy.tokens.accessLifetime.nanos then .ok u.id else .error .tokenInvalid
        else (s.perform (.login email' password') d').1 = .error .badCredentials) ∧
      (∀ email' password' kind d', (∀ known, Text.asciiLowercase kind ≠ TokenKind.name known) →
        (s.perform (.issueToken email' password' kind) d').1 = .error (.badTokenKind kind)) ∧
      (∀ email' password' d', (∀ v ∈ s.tables.users.rows, v.email ≠ Email.normalize email') →
        (s.perform (.login email' password') d').1 = .error .badCredentials ∧
          ∀ kind known, Text.asciiLowercase kind = TokenKind.name known →
            (s.perform (.issueToken email' password' kind) d').1 = .error .badCredentials) ∧
      ∀ email' password' d', (∃ v ∈ s.tables.users.rows, v.email = Email.normalize email') →
        (s.perform (.register email' password') d').1 = .error .emailAlreadyInUse ∧
          (s.perform (.register email' password') d').2.store = s.store := by
  intro s matching
  have hpast : past.Idle := hr.idle hheld
  have hentered := hpast.step (.perform (.register email password) d)
  have hi : s.Idle := hentered.after later
  have hc : s.tables.AccountsSound :=
    hentered.accountsSound_after (hpast.accountsSound_step hr.accountsSound _) later
  have hp : s.policy = past.policy := (hentered.after_policy later).trans (hpast.step_policy _)
  obtain ⟨hemail, hhash, hrow⟩ := hpast.registered hu
  have hget : s.tables.users.get? u.id = some u := hentered.account_after hrow later hnew hd
  have hfound {email' : String} (he : Email.normalize email' = Email.normalize email) :
      s.tables.findUserByEmail (Email.normalize email') = some u :=
    hc.users.findUserByEmail_eq_some.2 ⟨hget, hemail.trans he.symm⟩
  have hreg : s.tables.users.contains u.id = true := Table.contains_eq_true.2 ⟨u, hget⟩
  refine ⟨Password.verify_hash d.salt hhash, ?_, ?_, ?_, ?_⟩
  · intro hs email' password' d' he
    have hlogin := hi.login_account hs (hfound he) hreg password' d'
    rw [hp] at hlogin
    refine ⟨fun kind known hk hn => ?_, hlogin⟩
    have hissue := hi.issueToken_account hs (hfound he) hreg password' d'
      (TokenKind.ofText?_eq_some.2 hk) hn
    rw [hp] at hissue
    exact hissue
  · intro email' password' kind d' hk
    refine perform_issueToken_unknown ?_ email' password' d'
    refine Option.eq_none_iff_forall_not_mem.2 fun known hknown => ?_
    exact hk known (TokenKind.ofText?_eq_some.1 hknown)
  · intro email' password' d' hno
    have hnone : s.tables.findUserByEmail (Email.normalize email') = none := by
      refine List.find?_eq_none.2 fun v hv hmatch => ?_
      exact hno v hv (of_decide_eq_true hmatch)
    obtain ⟨hlogin, hissue⟩ := hi.refuses_unknown password' d' hnone
    refine ⟨hlogin, fun kind known hk => ?_⟩
    exact hissue kind known (TokenKind.ofText?_eq_some.2 hk)
  · intro email' password' d' hstored
    obtain ⟨v, hv, he⟩ := hstored
    obtain ⟨id, hrow⟩ := Table.mem_rows.1 hv
    have hvalid : Email.isValid v.email = true := hc.valid id v hrow
    rw [← hc.users.key id v hrow] at hrow
    refine hi.refuses_taken password' d' (hc.users.findUserByEmail_eq_some.2 ⟨hrow, he⟩) ?_
    rw [← he]
    exact hvalid

namespace Sample

/-- An hour after the account was registered. -/
def hourLater : Instant := ⟨3600000000000, by decide⟩

/-- The service with the account then. -/
def reentered : Service := { entered policy.tokens with clock := hourLater }

theorem reentered_healthy : reentered.Healthy := by
  have hp : reentered.policy = ⟨policy.tokens, openPolicy.passwords⟩ :=
    entered_policy policy.tokens
  refine ⟨entered_writes policy.tokens, ?_, ?_, ?_⟩
  all_goals
    rw [hp]
    decide

end Sample

open Sample in
/-- The account gets a secret for its address in capital letters, and keeps the address. -/
theorem account_until_deleted_sample :
    ((Service.start ⟨policy.tokens, openPolicy.passwords⟩ 5000 clock).perform
        (.register "a@b.c" ⟨""⟩) (draws 1)).1 = .ok account ∧ reentered.Healthy ∧
      (∃ token, (reentered.perform (.issueToken " A@B.C " ⟨""⟩ "Opaque") (draws 5)).1 = .ok token ∧
        ((reentered.perform (.issueToken " A@B.C " ⟨""⟩ "Opaque") (draws 5)).2.perform
          (.resolveToken token.text) (draws 6)).1 = .ok member) ∧
      (reentered.perform (.issueToken "a@b.c" ⟨""⟩ "jwt") (draws 5)).1 =
        .error (.badTokenKind "jwt") ∧
      (reentered.perform (.register " A@B.C " ⟨"other"⟩) (draws 5)).1 =
        .error .emailAlreadyInUse := by
  have hentry := (entry_registered policy.tokens).1
  have hkept : ¬(entered policy.tokens).Deletes [.setClock hourLater] account.id := by
    rintro ⟨pre, d, post, hsteps, -⟩
    have hm : .perform (.deleteUser account.id) d ∈ [Step.setClock hourLater] := by
      rw [hsteps]
      exact List.mem_append_right _ (List.mem_cons_self ..)
    cases List.mem_singleton.1 hm
  have hwriting : Email.normalize " A@B.C " = Email.normalize "a@b.c" := by decide +kernel
  have hkind : Text.asciiLowercase "Opaque" = TokenKind.secret.name := by decide +kernel
  have hnew : reentered.tables.tokens.contains (draws 5).secret.digest = false := by
    have ht : reentered.tables = _ := entered_tables policy.tokens
    rw [ht]
    rfl
  have hlives : 0 ≤ (policy.tokens.lifetime .secret).nanos := by decide
  obtain ⟨hmatch, hexchange, hunknown, -, htaken⟩ := account_until_deleted
    ⟨policy.tokens, openPolicy.passwords⟩ 5000 clock
    (Service.start ⟨policy.tokens, openPolicy.passwords⟩ 5000 clock) (.session []) rfl
    [.setClock hourLater] "a@b.c" ⟨""⟩ (draws 1) account hentry List.not_mem_nil hkept
  refine ⟨hentry, reentered_healthy, ?_, ?_, ?_⟩
  · obtain ⟨hissue, -⟩ := hexchange reentered_healthy " A@B.C " ⟨""⟩ (draws 5) hwriting
    have hissue := hissue "Opaque" .secret hkind fun _ => hnew
    rw [if_pos hmatch] at hissue
    obtain ⟨token, htoken, hresolve⟩ := hissue
    exact ⟨token, htoken, (hresolve (draws 6)).trans (if_pos hlives)⟩
  · refine hunknown "a@b.c" ⟨""⟩ "jwt" (draws 5) fun known => ?_
    cases known <;> decide +kernel
  · refine (htaken " A@B.C " ⟨"other"⟩ (draws 5) ⟨account, ?_, ?_⟩).1
    · have ht : reentered.tables = _ := entered_tables policy.tokens
      have hrow : account ∈ (Table.empty.insert member account).rows :=
        Table.mem_rows.2 ⟨member, Table.get?_insert_self ..⟩
      exact ht ▸ hrow
    · decide +kernel

open Sample in
/-- With a negative lifetime, what is handed out for the right password is not good for anyone. -/
theorem issued_expired :
    ((Service.start ⟨backdated, openPolicy.passwords⟩ 5000 clock).perform
        (.register "a@b.c" ⟨""⟩) (draws 1)).1 = .ok account ∧
      (Password.mk "").verify account.passwordHash openPolicy.passwords.serverSecret = true ∧
      ∃ token, ((entered backdated).perform (.issueToken "a@b.c" ⟨""⟩ "signed") (draws 5)).1 =
          .ok token ∧
        (((entered backdated).perform (.issueToken "a@b.c" ⟨""⟩ "signed") (draws 5)).2.perform
          (.resolveToken token.text) (draws 6)).1 = .error .tokenInvalid := by
  have hi : (entered backdated).Idle := entered_idle backdated
  have hhealthy : (entered backdated).Healthy := by
    refine ⟨entered_writes _, ?_, ?_, ?_⟩
    all_goals
      rw [entered_policy, entered_clock]
      decide
  have hexpired : ¬0 ≤ (backdated.lifetime .signed).nanos := by decide
  have hkind : TokenKind.ofText? "signed" = some .signed := by decide +kernel
  have hissue := hi.issueToken_account hhealthy (entered_account backdated)
    (entered_registered backdated) ⟨""⟩ (draws 5) hkind nofun
  have hmatch : (Password.mk "").verify account.passwordHash openPolicy.passwords.serverSecret =
    true := account_verify
  simp only [entered_policy, hmatch, if_true, if_neg hexpired] at hissue
  obtain ⟨token, htoken, hresolve⟩ := hissue
  exact ⟨(entry_registered backdated).1, hmatch, token, htoken, hresolve (draws 6)⟩

end GroupAccess
