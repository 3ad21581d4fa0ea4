import GroupAccess.Proofs.Store.Frame

namespace GroupAccess

namespace Table

variable {κ ρ σ : Type}

/-- The table with each row changed at its key. -/
def mapRows (f : ρ → σ) (t : Table κ ρ) : Table κ σ :=
  ⟨t.entries.map fun e => (e.1, f e.2), by
    have h : (t.entries.map fun e => (e.1, f e.2)).map Prod.fst = t.entries.map Prod.fst := by
      rw [List.map_map]
      rfl
    rw [h]
    exact t.nodup⟩

theorem mapRows_mapRows (f : ρ → ρ) (h : ∀ r, f (f r) = f r) (t : Table κ ρ) :
    (t.mapRows f).mapRows f = t.mapRows f := by
  simp only [mapRows, List.map_map, mk.injEq]
  exact List.map_congr_left fun e _ => by simp only [Function.comp, h]

theorem rows_mapRows (f : ρ → σ) (t : Table κ ρ) : (t.mapRows f).rows = t.rows.map f := by
  simp only [rows, mapRows, List.map_map]
  rfl

variable [DecidableEq κ]

theorem get?_mapRows (f : ρ → σ) (t : Table κ ρ) (k : κ) :
    (t.mapRows f).get? k = (t.get? k).map f := by
  simp only [get?, mapRows, List.find?_map, Option.map_map]
  rfl

theorem contains_mapRows (f : ρ → σ) (t : Table κ ρ) (k : κ) :
    (t.mapRows f).contains k = t.contains k := by
  rw [contains, get?_mapRows, Option.isSome_map, contains]

theorem erase_mapRows (f : ρ → σ) (t : Table κ ρ) (k : κ) :
    (t.mapRows f).erase k = (t.erase k).mapRows f := by
  simp only [erase, filter, mapRows, List.filter_map, mk.injEq]
  rfl

theorem insert_mapRows (f : ρ → σ) (t : Table κ ρ) (k : κ) (r : ρ) :
    (t.mapRows f).insert k (f r) = (t.insert k r).mapRows f := by
  by_cases hk : t.contains k = true
  · rw [insert, insert, dif_pos hk, dif_pos ((contains_mapRows f t k).trans hk)]
    simp only [modify, mapRows, List.map_map, mk.injEq]
    refine List.map_congr_left fun e _ => ?_
    simp only [Function.comp]
    split <;> rfl
  · rw [insert, insert, dif_neg hk, dif_neg fun h => hk ((contains_mapRows f t k).symm.trans h)]
    rfl

end Table

/-- The user without its hash. -/
def User.veiled (u : User) : User := { u with passwordHash := "" }

namespace Tables

def veiled (t : Tables) : Tables := { t with users := t.users.mapRows User.veiled }

variable (t : Tables)

@[simp] theorem veiled_veiled : t.veiled.veiled = t.veiled := by
  rw [veiled, veiled, Table.mapRows_mapRows User.veiled fun _ => rfl]

theorem map_veiled_veiled (r : Except StoreFailure Tables) :
    (r.map veiled).map veiled = r.map veiled := by
  cases r with
  | ok t => exact congrArg Except.ok t.veiled_veiled
  | error e => rfl

theorem findUserByEmail_veiled (email : String) :
    t.veiled.findUserByEmail email = (t.findUserByEmail email).map User.veiled := by
  rw [findUserByEmail, veiled, Table.rows_mapRows, List.find?_map]
  rfl

theorem createUser_veiled (u : User) :
    (t.veiled.createUser u).map veiled = (t.createUser u).map veiled := by
  simp only [createUser, findUserByEmail_veiled, Option.isSome_map]
  split
  · rfl
  · simp only [Except.map, veiled, ← Table.insert_mapRows]
    rw [Table.mapRows_mapRows User.veiled fun _ => rfl]

theorem deleteUser_veiled (id : UserId) : (t.deleteUser id).veiled = t.veiled.deleteUser id := by
  simp only [deleteUser, veiled, Table.erase_mapRows]

theorem contains_veiled (id : UserId) : t.veiled.users.contains id = t.users.contains id :=
  Table.contains_mapRows ..

theorem createToken_veiled (r : SecretRecord) :
    t.veiled.createToken r = (t.createToken r).map veiled := by
  rw [createToken, createToken, apply_ite (Except.map veiled)]
  rfl

end Tables

/-- What is seen of the value that a call gives. -/
def Call.veil : (c : Call) → c.Result → c.Result
  | .findUserByEmail _, found => found.map User.veiled
  | .findUser _, found => found.map User.veiled
  | _, a => a

namespace Store

def veiled (s : Store) : Store := { s with tables := s.tables.veiled }

@[simp] theorem veiled_veiled (s : Store) : s.veiled.veiled = s.veiled := by
  rw [veiled, veiled, Tables.veiled_veiled]

@[simp] theorem veiled_failsTokenWrites (s : Store) :
    s.veiled.failsTokenWrites = s.failsTokenWrites := rfl

/-- What is seen of an answer and of the store after it. -/
def veilWith {α : Type} (v : α → α) (x : Except StoreFailure α × Store) :
    Except StoreFailure α × Store :=
  (x.1.map v, x.2.veiled)

variable {α : Type} {v : α → α} (s : Store) (k : Agent)

theorem atomic_veiled {f : Tables → Except StoreFailure α × Tables}
    (h₁ : ∀ t, (f t.veiled).1.map v = (f t).1.map v)
    (h₂ : ∀ t, (f t.veiled).2.veiled = (f t).2.veiled) :
    (s.veiled.atomic f).map (veilWith v) = (s.atomic f).map (veilWith v) := by
  obtain ⟨t, held, tokens, fails⟩ := s
  cases held with
  | some _ => rfl
  | none => simp only [atomic, veiled, Option.map_some, veilWith, h₁, h₂]

theorem read_veiled {f : Tables → α} (h : ∀ t, v (f t.veiled) = v (f t)) :
    (s.veiled.read f).map (veilWith v) = (s.read f).map (veilWith v) :=
  s.atomic_veiled (fun t => congrArg Except.ok (h t)) fun t => t.veiled_veiled

theorem write_veiled {f : Tables → Except StoreFailure Tables}
    (h : ∀ t, (f t.veiled).map Tables.veiled = (f t).map Tables.veiled) :
    (s.veiled.write f).map (veilWith id) = (s.write f).map (veilWith id) := by
  refine s.atomic_veiled (fun t => ?_) fun t => ?_
  all_goals
    have ht := h t
    revert ht
    cases f t.veiled <;> cases f t <;> simp [Except.map]

/-- A call answers and leaves the same whatever the hashes are, as far as it is seen. -/
theorem call_veiled (c : Call) :
    (s.veiled.call k c).map (veilWith c.veil) = (s.call k c).map (veilWith c.veil) := by
  have beside (hc : c.method.accounts = false) :
      (s.veiled.call k c).map (veilWith c.veil) = (s.call k c).map (veilWith c.veil) := by
    have hr := s.call_recast (Table.mapRows User.veiled) id k hc
    have hs : s.veiled.call k c =
        (s.call k c).map (recastWith (Table.mapRows User.veiled) id) := hr
    rw [hs, Option.map_map]
    refine congrArg (fun f => (s.call k c).map f) (funext fun x => ?_)
    exact Prod.ext rfl x.2.veiled_veiled
  cases c with
  | findUserByEmail email =>
    refine s.read_veiled fun t => ?_
    simp only [Call.veil, Tables.findUserByEmail_veiled, Option.map_map]
    rfl
  | findUser id =>
    refine s.read_veiled fun t => ?_
    simp only [Call.veil, Tables.veiled, Table.get?_mapRows, Option.map_map]
    rfl
  | userExists id => exact s.read_veiled fun t => Table.contains_mapRows ..
  | createUser u => exact s.write_veiled fun t => t.createUser_veiled u
  | deleteUser id =>
    rw [call, call]
    refine s.atomic_veiled (fun t => ?_) fun t => ?_
    all_goals
      rw [Tables.contains_veiled]
      split
    · rfl
    · rfl
    · rw [← Tables.deleteUser_veiled, Tables.veiled_veiled]
    · exact t.veiled_veiled
  | createToken r =>
    rw [call, call, veiled_failsTokenWrites]
    split
    · rw [Option.map_some, Option.map_some, veilWith, veilWith, veiled_veiled]
    · exact s.write_veiled fun t => by
        rw [Tables.createToken_veiled, Tables.map_veiled_veiled]
  | purgeTokens now =>
    rw [call, call]
    exact s.atomic_veiled (fun _ => rfl) fun t => (t.purgeTokens now).veiled_veiled
  | findToken digest => exact s.read_veiled fun _ => rfl
  | _ => exact beside rfl

theorem abandon_veiled : s.veiled.abandon k = (s.abandon k).veiled :=
  s.abandon_recast (Table.mapRows User.veiled) id k

end Store

end GroupAccess
