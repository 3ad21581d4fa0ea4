import GroupAccess.Proofs.Store.Holding

namespace GroupAccess

namespace Method

/-- Methods that look at users or tokens. -/
def accounts : Method → Bool
  | findUserByEmail | findUser | userExists | createUser | deleteUser | createToken | findToken
  | purgeTokens => true
  | _ => false

end Method

section

variable (U : Table UserId User → Table UserId User)
  (V : Table String SecretRecord → Table String SecretRecord)

namespace Tables

/-- The tables with the users and the tokens changed. -/
def recast (t : Tables) : Tables := { t with users := U t.users, tokens := V t.tokens }

variable (t : Tables)

theorem createRole_recast (r : Role) (fresh : RoleId) :
    (t.recast U V).createRole r fresh =
      ((t.createRole r fresh).1, (t.createRole r fresh).2.recast U V) := by
  have hf : (t.recast U V).findRoleId r = t.findRoleId r := rfl
  rw [createRole, createRole, hf]
  cases t.findRoleId r <;> rfl

theorem createGroup_recast (g : Group) (owner : Membership) :
    (t.recast U V).createGroup g owner = (t.createGroup g owner).map (recast U V) := by
  rw [createGroup, createGroup, apply_ite (Except.map (recast U V))]
  rfl

theorem decrement_recast (id : InviteId) :
    (t.recast U V).decrement id =
      (t.decrement id).map fun (grant, t) => (grant, t.recast U V) := by
  have hi : (t.recast U V).invites.get? id = t.invites.get? id := rfl
  cases hf : t.invites.get? id with
  | none => rw [decrement_missing hf, decrement_missing (hi.trans hf), Except.map]
  | some i =>
    cases hu : i.isExhausted with
    | true => rw [decrement_exhausted hf hu, decrement_exhausted (hi.trans hf) hu, Except.map]
    | false =>
      rw [decrement_usable hf hu, decrement_usable (hi.trans hf) hu]
      rfl

theorem insertMembership_recast (m : Membership) :
    (t.recast U V).insertMembership m = (t.insertMembership m).map (recast U V) := by
  cases hm : t.memberships.contains m.key with
  | true =>
    rw [insertMembership_taken hm]
    exact insertMembership_taken hm
  | false =>
    rw [insertMembership_free hm]
    exact insertMembership_free hm

theorem rollback_recast (x : Transaction) :
    x.rollback (t.recast U V) = (x.rollback t).recast U V := by
  obtain ⟨undo, fails⟩ := x
  simp only [Transaction.rollback]
  induction undo generalizing t with
  | nil => rfl
  | cons u us ih =>
    rw [List.foldl_cons, List.foldl_cons, ← ih]
    cases u <;> rfl

end Tables

namespace Store

variable (s : Store) (k : Agent)

def recast : Store := { s with tables := s.tables.recast U V }

/-- An answer, and the store after it with the users and the tokens changed. -/
def recastWith {α : Type} (x : Except StoreFailure α × Store) : Except StoreFailure α × Store :=
  (x.1, x.2.recast U V)

variable {α : Type}

theorem atomic_recast {f : Tables → Except StoreFailure α × Tables}
    (h : ∀ t, f (t.recast U V) = ((f t).1, (f t).2.recast U V)) :
    (s.recast U V).atomic f = (s.atomic f).map (recastWith U V) := by
  obtain ⟨t, held, tokens, fails⟩ := s
  cases held with
  | some _ => rfl
  | none =>
    simp only [atomic, recast, Option.map_some, recastWith, h]

theorem read_recast {f : Tables → α} (h : ∀ t, f (t.recast U V) = f t) :
    (s.recast U V).read f = (s.read f).map (recastWith U V) :=
  s.atomic_recast U V fun t => by rw [h]

theorem write_recast {f : Tables → Except StoreFailure Tables}
    (h : ∀ t, f (t.recast U V) = (f t).map (Tables.recast U V)) :
    (s.recast U V).write f = (s.write f).map (recastWith U V) := by
  refine s.atomic_recast U V fun t => ?_
  rw [h]
  cases f t <;> rfl

theorem within_recast
    {f : Transaction → Tables → Except StoreFailure α × Option Transaction × Tables}
    (h : ∀ x t, f x (t.recast U V) = ((f x t).1, (f x t).2.1, (f x t).2.2.recast U V)) :
    (s.recast U V).within k f = (s.within k f).map (recastWith U V) := by
  obtain ⟨t, held, tokens, fails⟩ := s
  cases held with
  | none => rfl
  | some y =>
    obtain ⟨holder, x⟩ := y
    simp only [within, recast, h]
    split
    · rfl
    · rfl

/-- A call that does not look at the accounts answers and leaves the same whatever they are. -/
theorem call_recast {c : Call} (hc : c.method.accounts = false) :
    (s.recast U V).call k c = (s.call k c).map (recastWith U V) := by
  cases c with
  | findUserByEmail _ | findUser _ | userExists _ | createUser _ | deleteUser _ | createToken _
  | findToken _ | purgeTokens _ => cases hc
  | createRole r fresh =>
    rw [call, call]
    exact s.atomic_recast U V fun t => by rw [Tables.createRole_recast]
  | createGroup g owner => exact s.write_recast U V fun t => t.createGroup_recast U V g owner
  | createInvite i =>
    rw [call, call]
    exact s.write_recast U V (f := fun t => .ok (t.createInvite i)) fun _ => rfl
  | health => rfl
  | begin =>
    obtain ⟨t, held, tokens, fails⟩ := s
    cases held <;> rfl
  | decrement id =>
    rw [call, call]
    refine s.within_recast U V k fun x t => ?_
    rw [Transaction.decrement, Transaction.decrement, Tables.decrement_recast]
    cases t.decrement id <;> rfl
  | insertMembership m =>
    rw [call, call]
    refine s.within_recast U V k fun x t => ?_
    rw [Transaction.insertMembership, Transaction.insertMembership,
      Tables.insertMembership_recast]
    cases t.insertMembership m <;> rfl
  | commit =>
    rw [call, call]
    refine s.within_recast U V k fun x t => ?_
    rw [Transaction.commit, Transaction.commit, Tables.rollback_recast]
    split <;> rfl
  | rollback =>
    rw [call, call]
    exact s.within_recast U V k fun x t => by rw [Tables.rollback_recast]
  | _ => exact s.read_recast U V fun _ => rfl

/-- A call that does not look at the accounts leaves them as they are. -/
theorem call_accounts {c : Call} (hc : c.method.accounts = false) {s' : Store}
    {r : Except StoreFailure c.Result} (h : s.call k c = some (r, s')) :
    s'.tables.users = s.tables.users ∧ s'.tables.tokens = s.tables.tokens := by
  have hr := s.call_recast (fun _ => s.tables.users) (fun _ => s.tables.tokens) k hc
  have hs : s.recast (fun _ => s.tables.users) (fun _ => s.tables.tokens) = s := rfl
  rw [hs, h, Option.map_some, Option.some.injEq, Prod.mk.injEq] at hr
  rw [hr.2]
  exact ⟨rfl, rfl⟩

theorem abandon_recast : (s.recast U V).abandon k = (s.abandon k).recast U V := by
  rw [abandon, abandon, call_recast U V s k rfl]
  cases s.call k .rollback <;> rfl

end Store

end

end GroupAccess
