import GroupAccess.Store.Tables
import Mathlib.Data.List.Nodup

namespace GroupAccess

namespace Table

variable {κ ρ : Type} [DecidableEq κ] {t : Table κ ρ} {k : κ} {r : ρ} {p : ρ → Bool}

/-- A row is the only one of a kind if all others of the kind would have its key. -/
theorem rows_filter_eq_singleton (h : t.get? k = some r) (hr : p r = true)
    (hu : ∀ k' r', t.get? k' = some r' → p r' = true → k' = k) : t.rows.filter p = [r] := by
  classical
  have hm : (k, r) ∈ t.entries := get?_eq_some.1 h
  have hkind (e : κ × ρ) (he : e ∈ t.entries) : p e.2 = decide (e = (k, r)) := by
    by_cases heq : e = (k, r)
    · rw [heq, hr, decide_eq_true rfl]
    · rw [decide_eq_false heq]
      refine Bool.eq_false_iff.2 fun hp => heq ?_
      have hget : t.get? e.1 = some e.2 := get?_eq_some.2 he
      have hkey := hu _ _ hget hp
      rw [hkey, h] at hget
      exact Prod.ext hkey (Option.some.inj hget).symm
  have hone : t.entries.filter (fun e => p e.2) = [(k, r)] := by
    rw [List.filter_congr hkind, List.filter_eq, List.count_eq_one_of_mem t.nodup.of_map hm]
    rfl
  rw [rows, List.filter_map]
  exact congrArg (List.map Prod.snd) hone

/-- What is inserted where there is none of its kind is the only one. -/
theorem rows_filter_insert (hn : ∀ k' r', t.get? k' = some r' → p r' = false) (hr : p r = true) :
    (t.insert k r).rows.filter p = [r] := by
  refine rows_filter_eq_singleton (get?_insert_self ..) hr fun k' r' hk hp => ?_
  rcases get?_insert_cases hk with ⟨rfl, -⟩ | hold
  · rfl
  · rw [hn k' r' hold] at hp
    cases hp

end Table

namespace Tables

variable {t : Tables}

/-- The users with an address. -/
def addressed (t : Tables) (email : String) : List User :=
  t.users.rows.filter fun u => u.email = email

/-- The groups with a name. -/
def named (t : Tables) (name : String) : List Group :=
  t.groups.rows.filter fun g => g.name = name

/-- The memberships of a group. -/
def membersOf (t : Tables) (id : GroupId) : List Membership :=
  t.memberships.rows.filter fun m => m.group = id

theorem findUserByEmail_eq (t : Tables) (email : String) :
    t.findUserByEmail email = (t.addressed email).head? :=
  List.head?_filter.symm

/-- A user is stored where nobody has its address, and is the one that has it then. -/
theorem createUser_addressed {u : User} (h : t.addressed u.email = []) :
    ∃ t', t.createUser u = .ok t' ∧ t'.addressed u.email = [u] := by
  have hfind : t.findUserByEmail u.email = none := by rw [findUserByEmail_eq, h, List.head?_nil]
  refine ⟨{ t with users := t.users.insert u.id u }, ?_, ?_⟩
  · rw [createUser, hfind]
    rfl
  · refine Table.rows_filter_insert (fun id v hv => ?_) (decide_eq_true rfl)
    exact Bool.eq_false_iff.2 (List.filter_eq_nil_iff.1 h v (Table.mem_rows.2 ⟨id, hv⟩))

theorem createUser_conflict {u : User} (h : t.addressed u.email ≠ []) :
    t.createUser u = .error (.conflict "users_email_key") := by
  obtain ⟨v, rest, hv⟩ := List.exists_cons_of_ne_nil h
  rw [createUser, findUserByEmail_eq, hv]
  rfl

/-- A group is stored where no other has its name and nobody is a member of it. It is the one with
the name then, and its owner is the one member. -/
theorem createGroup_named {g : Group} (owner : Membership) (hg : t.named g.name = [])
    (hm : t.membersOf g.id = []) (ho : owner.group = g.id) :
    ∃ t', t.createGroup g owner = .ok t' ∧ t'.named g.name = [g] ∧ t'.membersOf g.id = [owner] ∧
      t'.roles = t.roles := by
  have hfree := List.filter_eq_nil_iff.1 hg
  have hempty := List.filter_eq_nil_iff.1 hm
  refine ⟨{ t with
    groups := t.groups.insert g.id g
    memberships := t.memberships.insert owner.key owner }, ?_, ?_, ?_, rfl⟩
  · have hany : (t.groups.rows.any fun h => h.name = g.name) = false :=
      List.any_eq_false.2 hfree
    rw [createGroup, hany]
    rfl
  · refine Table.rows_filter_insert (fun id h hid => ?_) (decide_eq_true rfl)
    exact Bool.eq_false_iff.2 (hfree h (Table.mem_rows.2 ⟨id, hid⟩))
  · refine Table.rows_filter_insert (fun k m hk => ?_) (decide_eq_true ho)
    exact Bool.eq_false_iff.2 (hempty m (Table.mem_rows.2 ⟨k, hk⟩))

theorem createGroup_taken {g : Group} (owner : Membership) (h : t.named g.name ≠ []) :
    t.createGroup g owner = .error (.conflict "groups_name_key") := by
  obtain ⟨v, hv⟩ := List.exists_mem_of_ne_nil _ h
  obtain ⟨hrow, hname⟩ := List.mem_filter.1 hv
  exact if_pos (List.any_eq_true.2 ⟨v, hrow, hname⟩)

end Tables

end GroupAccess
