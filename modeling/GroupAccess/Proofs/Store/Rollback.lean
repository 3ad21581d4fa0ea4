import GroupAccess.Proofs.Store.Answered
import GroupAccess.Proofs.Store.Holding

namespace GroupAccess

/-- A write that a transaction can make. -/
inductive Write
  | decrement (invite : InviteId)
  | insertMembership (m : Membership)
  deriving DecidableEq

namespace Write

variable {t : Tables} {w : Write}

def call : Write → Call
  | decrement invite => .decrement invite
  | insertMembership m => .insertMembership m

/-- What an accepted write does to the tables. -/
def effect (t : Tables) : Write → Tables
  | decrement invite => t.takeUse invite
  | insertMembership m => { t with memberships := t.memberships.insert m.key m }

/-- How an accepted write is noted. -/
def undo : Write → Undo
  | decrement invite => .decrement invite
  | insertMembership m => .membership m.key

/-- What a write is answered, by the tables that it finds. -/
def answer (t : Tables) : (w : Write) → Except StoreFailure w.call.Result
  | decrement invite =>
    match t.invites.get? invite with
    | none => .error .notFound
    | some i => if i.remaining ≤ 0 then .error .exhausted else .ok i.grant
  | insertMembership m =>
    if t.memberships.contains m.key then .error (.conflict "memberships_pkey") else .ok ()

/-- Only an invite with uses left is decremented. -/
theorem answer_decrement {invite : InviteId} {grant : Grant}
    (h : (decrement invite).answer t = .ok grant) :
    ∃ i, t.invites.get? invite = some i ∧ 0 < i.remaining ∧ grant = i.grant := by
  simp only [answer] at h
  split at h
  · cases h
  · rename_i i hi
    split at h
    · cases h
    · cases h
      exact ⟨i, hi, by omega, rfl⟩

/-- Only a new membership is inserted. -/
theorem answer_insertMembership {m : Membership}
    (h : (insertMembership m).answer t = .ok ()) : t.memberships.contains m.key = false := by
  simp only [answer] at h
  split at h
  · cases h
  · exact Bool.eq_false_iff.2 ‹_›

/-- The note of an accepted write takes exactly this write back. -/
theorem apply_undo {r : w.call.Result} (h : w.answer t = .ok r) :
    w.undo.apply (w.effect t) = t := by
  cases w with
  | decrement invite => exact t.increment_takeUse invite
  | insertMembership m => exact Tables.removeMembership_insert (answer_insertMembership h)

end Write

/-- A write with its answer. -/
abbrev Answer := (w : Write) × Except StoreFailure w.call.Result

/-- A write as the tables answer it. -/
def Write.answered (t : Tables) (w : Write) : Answer := ⟨w, w.answer t⟩

namespace Answer

/-- The tables with an accepted write; a refused one does nothing. -/
def effect (t : Tables) (a : Answer) : Tables :=
  match a.2 with
  | .ok _ => a.1.effect t
  | .error _ => t

/-- The transaction with the note of an accepted write. -/
def noted (x : Transaction) (a : Answer) : Transaction :=
  match a.2 with
  | .ok _ => { x with undo := a.1.undo :: x.undo }
  | .error _ => x

@[simp] theorem noted_failsCommit (x : Transaction) (a : Answer) :
    (a.noted x).failsCommit = x.failsCommit := by
  unfold noted
  split <;> rfl

end Answer

namespace Tables

/-- The tables with the accepted writes among those answered, in their order. -/
def written (t : Tables) (log : List Answer) : Tables := log.foldl Answer.effect t

/-- The invites are those of `T`, each with the uses it has there or with fewer, but not with fewer
than none. -/
def Spends (T t : Tables) : Prop :=
  ∀ id i, t.invites.get? id = some i → ∃ j, T.invites.get? id = some j ∧
    i = { j with remaining := i.remaining } ∧ i.remaining ≤ j.remaining ∧
    (i.remaining = j.remaining ∨ 0 ≤ i.remaining)

/-- Every count of uses is a signed number of 32 bits. -/
def UsesFit (t : Tables) : Prop :=
  ∀ id i, t.invites.get? id = some i → -2147483648 ≤ i.remaining ∧ i.remaining ≤ 2147483647

variable {T t : Tables} {us : List Undo}

theorem Spends.usesFit (h : T.Spends t) (hT : T.UsesFit) : t.UsesFit := by
  intro id i hi
  obtain ⟨j, hj, -, hle, hor⟩ := h id i hi
  have hT := hT id j hj
  omega

/-- The tables while a transaction is open, with its notes: it began with `T`. -/
inductive Noted (T : Tables) : List Undo → Tables → Prop
  | begun : Noted T [] T
  | write {us : List Undo} {t : Tables} {w : Write} {r : w.call.Result} (h : Noted T us t)
      (hw : w.answer t = .ok r) : Noted T (w.undo :: us) (w.effect t)

namespace Noted

/-- Taking back all writes leaves the tables with which the transaction began. -/
theorem foldl_apply (h : Noted T us t) : us.foldl Undo.apply t = T := by
  induction h with
  | begun => rfl
  | write h hw ih => rw [List.foldl_cons, Write.apply_undo hw, ih]

/-- While writes are taken back, the notes that are left belong to the tables. -/
theorem take (h : Noted T us t) (n : Nat) :
    Noted T (us.drop n) ((us.take n).foldl Undo.apply t) := by
  induction n generalizing us t with
  | zero => exact h
  | succ n ih =>
    cases h with
    | begun => exact .begun
    | write h hw =>
      rw [List.take_succ_cons, List.foldl_cons, Write.apply_undo hw]
      exact ih h

theorem answered {x : Transaction} (h : Noted T x.undo t) (w : Write) :
    Noted T ((w.answered t).noted x).undo ((w.answered t).effect t) := by
  cases hw : w.answer t with
  | error e =>
    simp only [Write.answered, Answer.noted, Answer.effect, hw]
    exact h
  | ok r =>
    simp only [Write.answered, Answer.noted, Answer.effect, hw]
    exact .write h hw

theorem spends (h : Noted T us t) : T.Spends t := by
  induction h with
  | begun => exact fun id i hi => ⟨i, hi, rfl, Int.le_refl _, .inl rfl⟩
  | @write us t w r h hw ih =>
    intro id i hi
    cases w with
    | insertMembership m => exact ih id i hi
    | decrement invite =>
      obtain ⟨j, hj, rfl⟩ := takeUse_invites hi
      obtain ⟨j', hj', hjj', hle, hor⟩ := ih id j hj
      by_cases hid : id = invite
      · subst id
        obtain ⟨i', hi', hpos, -⟩ := Write.answer_decrement hw
        cases hj.symm.trans hi'
        refine ⟨j', hj', ?_, ?_, .inr ?_⟩
        · rw [hjj']
        · simp only [if_true]
          omega
        · simp only [if_true]
          omega
      · simp only [hid, if_false]
        exact ⟨j', hj', hjj', hle, hor⟩

end Noted

end Tables

namespace Store

variable {s : Store} {k : Agent} {x : Transaction} {T : Tables}

/-- Writes made one after the other, with their answers, and the store after them; none if one has
to wait. -/
def writes (s : Store) (k : Agent) : List Write → Option (List Answer × Store)
  | [] => some ([], s)
  | w :: ws => do
    let (r, s) ← s.call k w.call
    let (log, s) ← s.writes k ws
    return (⟨w, r⟩ :: log, s)

/-- A write is answered by what the tables have. If it is accepted, its effect is in the tables and
its note with the transaction. -/
theorem call_write (h : s.held = some (k, x)) (w : Write) :
    s.call k w.call = some (w.answer s.tables, { s with
      tables := (w.answered s.tables).effect s.tables
      held := some (k, (w.answered s.tables).noted x) }) := by
  have hs : s = { s with held := some (k, x) } := by rw [← h]
  cases w with
  | decrement invite =>
    cases hi : s.tables.invites.get? invite with
    | none =>
      have hd := Tables.decrement_missing hi
      simp only [Write.call, call_decrement_error h hd, Write.answered, Write.answer, hi]
      exact congrArg (fun s => some (_, s)) hs
    | some i =>
      cases hu : i.isExhausted with
      | true =>
        have hd := Tables.decrement_exhausted hi hu
        have hle : i.remaining ≤ 0 := of_decide_eq_true hu
        simp only [Write.call, call_decrement_error h hd, Write.answered, Write.answer, hi,
          if_pos hle]
        exact congrArg (fun s => some (_, s)) hs
      | false =>
        have hd := Tables.decrement_usable hi hu
        have hle : ¬ i.remaining ≤ 0 := of_decide_eq_false hu
        simp only [Write.call, call_decrement h hd, Write.answered, Write.answer, hi, if_neg hle]
        rfl
  | insertMembership m =>
    cases hm : s.tables.memberships.contains m.key with
    | true =>
      have hd := Tables.insertMembership_taken hm
      simp only [Write.call, call_insertMembership_error h hd, Write.answered, Write.answer,
        if_pos hm]
      exact congrArg (fun s => some (_, s)) hs
    | false =>
      have hd := Tables.insertMembership_free hm
      simp only [Write.call, call_insertMembership h hd, Write.answered, Write.answer,
        if_neg (Bool.eq_false_iff.1 hm)]
      rfl

theorem call_write_eq_some {w : Write} {s' : Store} {r : Except StoreFailure w.call.Result}
    (hc : s.call k w.call = some (r, s')) :
    r = w.answer s.tables ∧ s'.tables = (w.answered s.tables).effect s.tables := by
  cases hx : s.holding k with
  | none =>
    have hn : s.call k w.call = none := by
      cases w with
      | decrement invite => rw [Write.call.eq_1, call, within_stranger hx]
      | insertMembership m => rw [Write.call.eq_2, call, within_stranger hx]
    rw [hn] at hc
    cases hc
  | some x =>
    rw [call_write (holding_eq_some.1 hx)] at hc
    cases hc
    exact ⟨rfl, rfl⟩

/-- What writes and what takes them back keep, each call of a transaction keeps. -/
theorem call_transacts {P : Tables → Prop}
    (hwrite : ∀ (w : Write) (t : Tables), P t → P (w.effect t))
    (hundo : ∀ (u : Undo) (t : Tables), P t → P (u.apply t)) {s' : Store} {c : Call}
    {r : Except StoreFailure c.Result} (ht : c.method.transacts = true) (h : P s.tables)
    (hc : s.call k c = some (r, s')) : P s'.tables := by
  have hanswer (w : Write) {r : Except StoreFailure w.call.Result}
      (hc : s.call k w.call = some (r, s')) : P s'.tables := by
    rw [(call_write_eq_some hc).2, Answer.effect]
    split
    · exact hwrite w s.tables h
    · exact h
  cases c with
  | begin =>
    rw [call] at hc
    split at hc
    · cases hc
    · cases hc
      exact h
  | decrement invite => exact hanswer (.decrement invite) hc
  | insertMembership m => exact hanswer (.insertMembership m) hc
  | commit =>
    rw [call] at hc
    obtain ⟨x, -, rfl⟩ := within_eq_some hc
    dsimp only [Transaction.commit]
    split
    · exact x.rollback_induction h hundo
    · exact h
  | rollback =>
    rw [call] at hc
    obtain ⟨x, -, rfl⟩ := within_eq_some hc
    exact x.rollback_induction h hundo
  | _ => cases ht

/-- Writes in an open transaction never wait. Each is answered by the tables as the writes accepted
before it have left them, and the notes take all of them back. -/
theorem writes_held (h : s.held = some (k, x)) (hT : T.Noted x.undo s.tables) (ws : List Write) :
    ∃ log y, s.writes k ws =
        some (log, { s with tables := s.tables.written log, held := some (k, y) }) ∧
      log.map Sigma.fst = ws ∧
      (∀ before a after, log = before ++ a :: after → a.2 = a.1.answer (s.tables.written before)) ∧
      y.failsCommit = x.failsCommit ∧ T.Noted y.undo (s.tables.written log) := by
  induction ws generalizing s x with
  | nil =>
    have hs : s = { s with held := some (k, x) } := by rw [← h]
    exact ⟨[], x, congrArg (fun s => some ([], s)) hs, rfl, by simp, rfl, hT⟩
  | cons w ws ih =>
    obtain ⟨log, y, hrun, hws, hans, hfails, hy⟩ :=
      ih (s := { s with
        tables := (w.answered s.tables).effect s.tables
        held := some (k, (w.answered s.tables).noted x) }) rfl (hT.answered w)
    refine ⟨w.answered s.tables :: log, y, ?_, congrArg (w :: ·) hws, ?_,
      hfails.trans (Answer.noted_failsCommit ..), hy⟩
    · rw [writes, call_write h w]
      simp only [Option.bind_eq_bind, Option.bind_some, hrun]
      rfl
    · intro before a after hlog
      cases before with
      | nil =>
        cases hlog
        rfl
      | cons b before =>
        cases hlog
        exact hans before a after rfl

/-- What a transaction comes to. Without a commit, or when the commit fails, the store is the one
with which it began; a commit leaves the writes that were accepted, in their order, and nothing of
the others. As the writes are arbitrary, the bounds on the uses hold at each point on the way to the
commit, and, with `n` notes taken back, at each point of the way back. -/
theorem transaction_exact (T : Tables) (failsTokens failsCommits : Bool) (k : Agent)
    (ws : List Write) :
    ∃ opened log left x,
      call ⟨T, none, failsTokens, failsCommits⟩ k .begin = some (.ok (), opened) ∧
      opened.writes k ws = some (log, left) ∧ left.holding k = some x ∧
      log.map Sigma.fst = ws ∧
      (∀ before a after, log = before ++ a :: after → a.2 = a.1.answer (T.written before)) ∧
      left.abandon k = ⟨T, none, failsTokens, failsCommits⟩ ∧
      left.call k .commit = some (if failsCommits
        then (.error (.database "injected commit failure"), ⟨T, none, failsTokens, failsCommits⟩)
        else (.ok (), ⟨T.written log, none, failsTokens, failsCommits⟩)) ∧
      ∀ n, T.Spends ((x.undo.take n).foldl Undo.apply left.tables) ∧
        (T.UsesFit → ((x.undo.take n).foldl Undo.apply left.tables).UsesFit) := by
  obtain ⟨log, y, hrun, hws, hans, hfails, hy⟩ :=
    writes_held (s := ⟨T, some (k, ⟨[], failsCommits⟩), failsTokens, failsCommits⟩)
      (k := k) (x := ⟨[], failsCommits⟩) rfl .begun ws
  have hback : y.rollback (T.written log) = T := hy.foldl_apply
  refine ⟨_, log, _, y, call_begin rfl, hrun, holding_eq_some.2 rfl, hws, hans, ?_, ?_, ?_⟩
  · rw [abandon, call_rollback rfl, hback]
  · rw [call_commit rfl, Transaction.commit, hfails]
    cases failsCommits with
    | true =>
      simp only [if_true, hback]
    | false => rfl
  · intro n
    have hn := (hy.take n).spends
    exact ⟨hn, hn.usesFit⟩

end Store

end GroupAccess
