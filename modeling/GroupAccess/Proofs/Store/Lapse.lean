import GroupAccess.Proofs.Store.Answered
import GroupAccess.Proofs.Store.Cascade
import GroupAccess.Proofs.Store.Frame

namespace GroupAccess

namespace Table

variable {κ ρ : Type}

/-- The table without the rows at some keys. -/
def without (t : Table κ ρ) (lost : κ → Bool) : Table κ ρ := t.filter fun k _ => !lost k

theorem filter_without (t : Table κ ρ) (lost : κ → Bool) (p : κ → ρ → Bool) :
    (t.without lost).filter p = (t.filter p).without lost := by
  simp only [without, filter_filter, Bool.and_comm]

variable [DecidableEq κ] {t : Table κ ρ} {lost : κ → Bool} {k : κ}

theorem get?_without (hk : lost k = false) : (t.without lost).get? k = t.get? k := by
  rw [without, get?_filter]
  cases t.get? k <;> simp [hk]

theorem get?_without_lost (hk : lost k = true) : (t.without lost).get? k = none := by
  rw [without, get?_filter]
  cases t.get? k <;> simp [hk]

theorem contains_without (hk : lost k = false) : (t.without lost).contains k = t.contains k :=
  congrArg Option.isSome (get?_without hk)

theorem insert_without (hk : lost k = false) (r : ρ) :
    (t.without lost).insert k r = (t.insert k r).without lost := by
  by_cases hc : t.contains k = true
  · rw [insert, insert, dif_pos hc, dif_pos ((contains_without hk).trans hc)]
    simp only [modify, without, filter, List.filter_map, mk.injEq]
    refine congrArg (List.map _) (List.filter_congr fun e _ => ?_)
    simp only [Function.comp]
    split <;> rfl
  · rw [insert, insert, dif_neg hc, dif_neg fun h => hc ((contains_without hk).symm.trans h)]
    simp only [without, filter, mk.injEq]
    rw [List.filter_cons_of_pos (by simp [hk])]

end Table

/-- What is told of a value that a call gives, if tokens that have expired at `n` are neither found
nor counted. -/
def Call.unexpired (n : Instant) : (c : Call) → c.Result → c.Result
  | .findToken _, found => found.filter fun r => !r.isExpired n
  | .purgeTokens _, _ => 0
  | _, a => a

/-- The call stores no token under one of the digests. -/
def Call.Spares (lost : String → Bool) : Call → Prop
  | .createToken r => lost r.digest = false
  | _ => True

namespace Tables

/-- The tables without the tokens under some digests. -/
def without (t : Tables) (lost : String → Bool) : Tables :=
  t.recast id fun tokens => tokens.without lost

/-- The tokens under the digests have expired. -/
def Lapsed (t : Tables) (n : Instant) (lost : String → Bool) : Prop :=
  ∀ k r, lost k = true → t.tokens.get? k = some r → r.isExpired n = true

/-- The digests of the tokens that have expired. -/
def lapsed (t : Tables) (n : Instant) (k : String) : Bool :=
  (t.tokens.get? k).any fun r => r.isExpired n

variable (t : Tables) {lost : String → Bool} {n : Instant}

theorem lapsed_eq_true {k : String} :
    t.lapsed n k = true ↔ ∃ r, t.tokens.get? k = some r ∧ r.isExpired n = true := by
  rw [lapsed, Option.any_eq_true]

/-- A purge takes away the tokens that have expired and nothing else. -/
theorem purgeTokens_eq_without (n : Instant) : t.purgeTokens n = t.without (t.lapsed n) := by
  rw [purgeTokens_eq]
  refine congrArg (fun tokens => { t with tokens }) (Table.filter_eq_filter.2 fun k r hr => ?_)
  rw [lapsed, hr, Option.any_some]

theorem createUser_without (u : User) :
    (t.without lost).createUser u = (t.createUser u).map fun t => t.without lost := by
  rw [createUser, createUser, apply_ite (Except.map _)]
  rfl

theorem deleteUser_without (id : UserId) :
    (t.without lost).deleteUser id = (t.deleteUser id).without lost :=
  congrArg (fun tokens => { t.deleteUser id with tokens }) (Table.filter_without ..)

theorem createToken_without {r : SecretRecord} (hr : lost r.digest = false) :
    (t.without lost).createToken r = (t.createToken r).map fun t => t.without lost := by
  have hc : (t.without lost).tokens.contains r.digest = t.tokens.contains r.digest :=
    Table.contains_without hr
  rw [createToken, createToken, hc, apply_ite (Except.map _)]
  refine congrArg (ite _ _) (congrArg Except.ok ?_)
  exact congrArg (fun tokens => { t with tokens }) (Table.insert_without hr r)

theorem purgeTokens_without (now : Instant) :
    (t.without lost).purgeTokens now = (t.purgeTokens now).without lost :=
  congrArg (fun tokens => { t with tokens }) (Table.filter_without ..)

/-- The tokens that have not expired are found as before. -/
theorem get?_unexpired (h : t.Lapsed n lost) (k : String) :
    ((t.without lost).tokens.get? k).filter (fun r => !r.isExpired n) =
      (t.tokens.get? k).filter fun r => !r.isExpired n := by
  cases hk : lost k with
  | false => exact congrArg (Option.filter _) (Table.get?_without hk)
  | true =>
    have hnone : (t.without lost).tokens.get? k = none := Table.get?_without_lost hk
    rw [hnone]
    refine (Option.filter_eq_none_iff.2 fun r hr => ?_).symm
    rw [h k r hk hr]
    exact Bool.false_ne_true

end Tables

namespace Store

variable (s : Store) (k : Agent) {n : Instant} {lost : String → Bool} {c : Call}

def without (lost : String → Bool) : Store := s.recast id fun tokens => tokens.without lost

/-- One step that leaves the same without the tokens, and answers the same as far as `v` tells. -/
theorem atomic_without {α : Type} {v : α → α} {f : Tables → Except StoreFailure α × Tables}
    (ha : (f (s.tables.without lost)).1.map v = (f s.tables).1.map v)
    (ht : (f (s.tables.without lost)).2 = (f s.tables).2.without lost) :
    ((s.without lost).atomic f).map (fun x => (x.1.map v, x.2)) =
      (s.atomic f).map fun x => (x.1.map v, x.2.without lost) := by
  obtain ⟨t, held, tokens, fails⟩ := s
  cases held with
  | some _ => rfl
  | none =>
    have hs := congrArg (fun t => Store.mk t none tokens fails) ht
    exact congrArg some (Prod.ext ha hs)

/-- Without the expired tokens a call has to wait as it has with them, or answers and leaves the
same. -/
theorem call_without (h : s.tables.Lapsed n lost) (hc : c.Spares lost) :
    ((s.without lost).call k c).map (fun x => (x.1.map (c.unexpired n), x.2)) =
      (s.call k c).map fun x => (x.1.map (c.unexpired n), x.2.without lost) := by
  -- Calls that do not look for tokens are the same without them, answers included.
  have same (he : (s.without lost).call k c =
      (s.call k c).map (recastWith id fun tokens => tokens.without lost)) :
      ((s.without lost).call k c).map (fun x => (x.1.map (c.unexpired n), x.2)) =
        (s.call k c).map fun x => (x.1.map (c.unexpired n), x.2.without lost) := by
    rw [he, Option.map_map]
    rfl
  cases c with
  | findUserByEmail _ | findUser _ | userExists _ => exact same (s.read_recast _ _ fun _ => rfl)
  | createUser u =>
    rw [call] at same
    exact same (s.write_recast _ _ fun t => t.createUser_without u)
  | deleteUser id =>
    refine same ?_
    rw [call, call]
    refine s.atomic_recast _ _ fun t => ?_
    have hd : (t.without lost).deleteUser id = (t.deleteUser id).without lost :=
      t.deleteUser_without id
    have hu : (t.without lost).users.contains id = t.users.contains id := rfl
    rw [Tables.without] at hd hu
    rw [hd, hu]
    split <;> rfl
  | createToken r =>
    refine same ?_
    rw [call, call]
    have hf : (s.without lost).failsTokenWrites = s.failsTokenWrites := rfl
    rw [hf]
    split
    · rfl
    · exact s.write_recast _ _ fun t => t.createToken_without hc
  | findToken digest =>
    rw [call, call]
    exact s.atomic_without (congrArg Except.ok (s.tables.get?_unexpired h digest)) rfl
  | purgeTokens now =>
    rw [call, call]
    exact s.atomic_without rfl (s.tables.purgeTokens_without now)
  | _ => exact same (s.call_recast _ _ k rfl)

variable {s k}

/-- A token that is there after a call was there before, or it is one that the call stores. -/
theorem call_tokens {r : Except StoreFailure c.Result} {s' : Store}
    (hcall : s.call k c = some (r, s')) {key : String} {t : SecretRecord}
    (ht : s'.tables.tokens.get? key = some t) :
    s.tables.tokens.get? key = some t ∨ key = t.digest ∧ c = .createToken t := by
  cases c with
  | findUserByEmail _ | findUser _ | userExists _ | findToken _ =>
    rw [call] at hcall
    obtain ⟨-, rfl⟩ := atomic_eq_some hcall
    exact .inl ht
  | createUser u => obtain rfl | ⟨-, rfl⟩ := call_createUser hcall <;> exact .inl ht
  | deleteUser id =>
    rw [call] at hcall
    obtain ⟨-, rfl⟩ := atomic_eq_some hcall
    dsimp only at ht
    split at ht
    · exact .inl (Table.get?_filter_eq_some.1 ht).1
    · exact .inl ht
  | createToken record =>
    obtain rfl | ⟨-, rfl⟩ := call_createToken hcall
    · exact .inl ht
    · rcases Table.get?_insert_cases ht with ⟨rfl, rfl⟩ | ht
      · exact .inr ⟨rfl, rfl⟩
      · exact .inl ht
  | purgeTokens now =>
    rw [call] at hcall
    obtain ⟨-, rfl⟩ := atomic_eq_some hcall
    exact .inl (Table.get?_filter_eq_some.1 ht).1
  | _ =>
    have hkept := (call_accounts s k rfl hcall).2
    rw [hkept] at ht
    exact .inl ht

/-- A call that spares the digests stores no valid token under them. -/
theorem call_lapsed (h : s.tables.Lapsed n lost) (hc : c.Spares lost)
    {r : Except StoreFailure c.Result} {s' : Store} (hcall : s.call k c = some (r, s')) :
    s'.tables.Lapsed n lost := by
  intro key t hkey ht
  rcases call_tokens hcall ht with ht | ⟨rfl, rfl⟩
  · exact h key t hkey ht
  · cases (show lost t.digest = false from hc).symm.trans hkey

theorem abandon_without (s : Store) (k : Agent) (lost : String → Bool) :
    (s.without lost).abandon k = (s.abandon k).without lost :=
  abandon_recast ..

theorem abandon_lapsed (h : s.tables.Lapsed n lost) (k : Agent) :
    (s.abandon k).tables.Lapsed n lost := by
  unfold abandon
  split
  · exact call_lapsed (c := .rollback) h trivial ‹_›
  · exact h

end Store

end GroupAccess
