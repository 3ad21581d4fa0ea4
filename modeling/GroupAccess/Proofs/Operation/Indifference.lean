import GroupAccess.Proofs.Operation.Outcome
import GroupAccess.Proofs.Store.Lapse

namespace GroupAccess

/-- Results of which `v` tells the same. -/
theorem result_cases {ε α β : Type} {v : α → β} {r r' : Except ε α}
    (h : r.map v = r'.map v) :
    (∃ a a', r = .ok a ∧ r' = .ok a' ∧ v a = v a') ∨ ∃ e, r = .error e ∧ r' = .error e := by
  cases r with
  | ok a =>
    cases r' with
    | ok a' => exact .inl ⟨a, a', rfl, rfl, Except.ok.inj h⟩
    | error e' => cases h
  | error e =>
    cases r' with
    | ok a' => cases h
    | error e' => exact .inr ⟨e, rfl, congrArg _ (Except.error.inj h).symm⟩

/-- The call spares the digests, and its answer tells nothing of expired tokens. -/
def Call.Blind (n : Instant) (lost : String → Bool) (c : Call) : Prop :=
  c.Spares lost ∧ ∀ a, c.unexpired n a = a

theorem Call.blind_of_method {n : Instant} {lost : String → Bool} {c : Call}
    (h : c.method ∉ [.createToken, .findToken, .purgeTokens]) : c.Blind n lost := by
  cases c <;> first | exact ⟨trivial, fun _ => rfl⟩ | exact absurd (by simp [Call.method]) h

namespace Tokens

/-- Whose token it is that was found. -/
def granted (now : Instant) (found : Option SecretRecord) : Program UserId :=
  (Program.require .tokenInvalid found).bind fun record =>
    if record.isExpired now then .done (.error .tokenInvalid) else .done (.ok record.user)

theorem resolveSecret_eq (now : Instant) (s : Secret) :
    resolveSecret now s = (Program.ask (.findToken s.digest)).bind (granted now) := by
  simp only [resolveSecret, Program.bind_eq, Program.refuse_eq, Program.pure_eq]
  rfl

theorem isExpired_mono {r : SecretRecord} {n now : Instant} (hn : n ≤ now)
    (h : r.isExpired n = true) : r.isExpired now = true := by
  unfold SecretRecord.isExpired at *
  split at h
  · rename_i expiry he
    exact decide_eq_true (Int.lt_of_lt_of_le (of_decide_eq_true h) hn)
  · cases h

/-- Nobody is granted a token that has expired, as if it was not found. -/
theorem granted_unexpired {n now : Instant} (hn : n ≤ now) (found : Option SecretRecord) :
    granted now (found.filter fun r => !r.isExpired n) = granted now found := by
  cases found with
  | none => rfl
  | some r =>
    cases he : r.isExpired n with
    | false => rw [Option.filter_some, he]; rfl
    | true =>
      rw [Option.filter_some, he]
      exact (if_pos (isExpired_mono hn he)).symm

theorem granted_calls {ok : Call → Prop} (now : Instant) (found : Option SecretRecord) :
    Program.Calls ok (granted now found) :=
  .bind (.require _ _) fun _ => .ite (.done _) (.done _)

end Tokens

namespace Program

variable {α : Type} {n : Instant} {lost : String → Bool} {v : α → α}

/-- The programs count the same events and make the same calls, which spare the digests. From
answers that differ in expired tokens at most they end with results of which `v` tells the same. -/
inductive Indifferent (n : Instant) (lost : String → Bool) (v : α → α) :
    Program α → Program α → Prop
  | done {r r' : Except Refusal α} (h : r.map v = r'.map v) :
      Indifferent n lost v (.done r) (.done r')
  | count (e : Event) {p p' : Program α} (h : Indifferent n lost v p p') :
      Indifferent n lost v (.count e p) (.count e p')
  | call {c : Call} {next next' : Except StoreFailure c.Result → Program α} (hc : c.Spares lost)
      (h : ∀ r r', r.map (c.unexpired n) = r'.map (c.unexpired n) →
        Indifferent n lost v (next r) (next' r')) :
      Indifferent n lost v (.call c next) (.call c next')

namespace Indifferent

/-- A program whose calls tell nothing of expired tokens. -/
theorem of_calls {p : Program α} (hp : Calls (Call.Blind n lost) p) :
    Indifferent n lost id p p := by
  induction hp with
  | done r => exact done rfl
  | count e _ ih => exact count e ih
  | @call c next hc _ ih =>
    refine call hc.1 fun r r' hr => ?_
    have hid : c.unexpired n = id := funext hc.2
    rw [hid, Except.map_id] at hr
    cases hr
    exact ih r

/-- A token that has expired is refused just as one that is not found. -/
theorem resolveToken {now : Instant} (hn : n ≤ now) (policy : TokenPolicy) (text : String) :
    Indifferent n lost id (Operation.countingAuth (Tokens.resolve policy now text))
      (Operation.countingAuth (Tokens.resolve policy now text)) := by
  have hu (user : UserId) : Calls (Call.Blind n lost) (Tokens.whileRegistered user) :=
    whileRegistered_calls ⟨trivial, fun _ => rfl⟩
  simp only [Tokens.resolve, bind_eq]
  cases Presented.ofText? text with
  | none => exact of_calls (countingRefusal_calls (.done _))
  | some presented =>
    simp only [require, bind_ok]
    cases presented with
    | signed header claims signature =>
      exact of_calls (countingRefusal_calls (.bind (.require _ _) hu))
    | secret s =>
      let rest (found : Option SecretRecord) : Program UserId :=
        Operation.countingAuth ((Tokens.granted now found).bind Tokens.whileRegistered)
      have hrest (found : Option SecretRecord) : Calls (Call.Blind n lost) (rest found) :=
        countingRefusal_calls (.bind (Tokens.granted_calls now found) hu)
      simp only [Tokens.resolveSecret_eq]
      refine call (c := .findToken s.digest) trivial fun r r' hr => ?_
      rcases result_cases hr with ⟨found, found', rfl, rfl, h⟩ | ⟨e, rfl, rfl⟩
      · have hsame : Tokens.granted now found = Tokens.granted now found' := by
          rw [← Tokens.granted_unexpired hn found, ← Tokens.granted_unexpired hn found']
          exact congrArg (Tokens.granted now) h
        have hf : Indifferent n lost id (rest found) (rest found') := by
          simp only [rest, hsame]
          exact of_calls (hrest found')
        exact hf
      · exact of_calls (countingRefusal_calls (.done _))

end Indifferent

end Program

open Program

/-- What is told of a result if it is left open what a purge counts. -/
def Operation.uncounted : (o : Operation) → o.Result → o.Result
  | purgeTokens, _ => 0
  | _, a => a

/-- An operation and what it came to. -/
structure Performed where
  operation : Operation
  result : Except Refusal operation.Result

/-- The same if it is left open what a purge counts. -/
def Performed.uncounted (x : Performed) : Performed :=
  ⟨x.operation, x.result.map x.operation.uncounted⟩

/-- An operation that begins when the tokens have expired makes no difference between a token that
has expired and one that is gone. -/
theorem program_indifferent {n : Instant} {lost : String → Bool} (policy : Policy) {now : Instant}
    {d : Draws} {o : Operation} (hn : n ≤ now)
    (hd : o.storesSecret = true → lost d.secret.digest = false) :
    Indifferent n lost o.uncounted (o.program policy now d) (o.program policy now d) := by
  have hstore (h : o.storesSecret = true) (r : SecretRecord) (hr : r.digest = d.secret.digest) :
      (Call.createToken r).Blind n lost :=
    ⟨(congrArg lost hr).trans (hd h), fun _ => rfl⟩
  -- Only a token that is shown is looked for, and only a purge counts; all others look elsewhere.
  cases o with
  | issueToken email password kind =>
    apply Indifferent.of_calls
    simp only [Operation.program, Accounts.issueToken, bind_eq]
    refine .bind (.require _ _) fun kind => ?_
    refine .bind (authenticate_calls fun _ => ⟨trivial, fun _ => rfl⟩) fun user => ?_
    cases kind with
    | signed => exact issueSigned_calls
    | secret => exact issueSecret_calls (hstore rfl)
  | issueApiKey user => exact .of_calls (issueSecret_calls (hstore rfl))
  | resolveToken token => exact .resolveToken hn policy.tokens token
  | purgeTokens =>
    refine .call (c := .purgeTokens now) trivial fun r r' hr => ?_
    rcases result_cases hr with ⟨count, count', rfl, rfl, -⟩ | ⟨e, rfl, rfl⟩
    · exact .done rfl
    · exact .done rfl
  | _ =>
    refine .of_calls ((program_calls policy now d _).mono fun c hc => Call.blind_of_method ?_)
    revert hc
    generalize c.method = m
    simp only [Operation.methods]
    revert m
    decide

end GroupAccess
