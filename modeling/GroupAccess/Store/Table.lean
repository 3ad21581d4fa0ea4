namespace GroupAccess

/-- A finite map as a list of entries. Each key has one entry, and a new one goes to the front. -/
structure Table (κ ρ : Type) where
  entries : List (κ × ρ)
  nodup : (entries.map Prod.fst).Nodup
  deriving DecidableEq

namespace Table

variable {κ ρ : Type}

def empty : Table κ ρ := ⟨[], .nil⟩

def rows (t : Table κ ρ) : List ρ := t.entries.map Prod.snd

def size (t : Table κ ρ) : Nat := t.entries.length

def filter (t : Table κ ρ) (p : κ → ρ → Bool) : Table κ ρ :=
  ⟨t.entries.filter fun e => p e.1 e.2,
    t.nodup.sublist (List.filter_sublist.map Prod.fst)⟩

variable [DecidableEq κ]

def get? (t : Table κ ρ) (k : κ) : Option ρ := (t.entries.find? fun e => e.1 = k).map Prod.snd

def contains (t : Table κ ρ) (k : κ) : Bool := (t.get? k).isSome

def erase (t : Table κ ρ) (k : κ) : Table κ ρ := t.filter fun key _ => key ≠ k

def modify (t : Table κ ρ) (k : κ) (f : ρ → ρ) : Table κ ρ :=
  ⟨t.entries.map fun e => if e.1 = k then (e.1, f e.2) else e, by
    have h : (t.entries.map fun e => if e.1 = k then (e.1, f e.2) else e).map Prod.fst
        = t.entries.map Prod.fst := by
      rw [List.map_map]
      apply List.map_congr_left
      intro e _
      simp only [Function.comp]
      split <;> rfl
    rw [h]
    exact t.nodup⟩

theorem contains_iff {t : Table κ ρ} {k : κ} :
    t.contains k = true ↔ k ∈ t.entries.map Prod.fst := by
  simp [contains, get?, List.find?_isSome]

def insert (t : Table κ ρ) (k : κ) (r : ρ) : Table κ ρ :=
  if h : t.contains k then t.modify k fun _ => r
  else ⟨(k, r) :: t.entries, List.nodup_cons.2 ⟨fun hk => h (contains_iff.2 hk), t.nodup⟩⟩

@[simp] theorem get?_empty (k : κ) : (empty : Table κ ρ).get? k = none := rfl

theorem get?_erase (t : Table κ ρ) (k k' : κ) :
    (t.erase k).get? k' = if k' = k then none else t.get? k' := by
  obtain ⟨es, h⟩ := t
  simp only [erase, filter, get?]
  induction es with
  | nil => simp
  | cons e es ih =>
    have ih := ih (List.nodup_cons.1 h).2
    by_cases he : e.1 = k <;> by_cases hk : e.1 = k' <;> by_cases hkk : k' = k <;> simp_all

theorem get?_modify (t : Table κ ρ) (k k' : κ) (f : ρ → ρ) :
    (t.modify k f).get? k' = if k' = k then (t.get? k').map f else t.get? k' := by
  obtain ⟨es, h⟩ := t
  simp only [modify, get?]
  induction es with
  | nil => simp
  | cons e es ih =>
    have ih := ih (List.nodup_cons.1 h).2
    by_cases he : e.1 = k <;> by_cases hk : e.1 = k' <;> by_cases hkk : k' = k <;> simp_all

theorem get?_insert (t : Table κ ρ) (k k' : κ) (r : ρ) :
    (t.insert k r).get? k' = if k' = k then some r else t.get? k' := by
  unfold insert
  split
  · rename_i h
    rw [get?_modify]
    split
    · subst k'
      obtain ⟨r', h⟩ := Option.isSome_iff_exists.1 h
      simp [h]
    · rfl
  · by_cases h : k = k' <;> by_cases h' : k' = k <;> simp_all [get?]

@[simp] theorem get?_insert_self (t : Table κ ρ) (k : κ) (r : ρ) :
    (t.insert k r).get? k = some r := by
  rw [get?_insert, if_pos rfl]

/-- A row after an insertion is the one inserted, or it was there. -/
theorem get?_insert_cases {t : Table κ ρ} {k k' : κ} {r r' : ρ}
    (h : (t.insert k r).get? k' = some r') : k' = k ∧ r' = r ∨ t.get? k' = some r' := by
  rw [get?_insert] at h
  split at h
  · exact .inl ⟨‹_›, (Option.some.inj h).symm⟩
  · exact .inr h

/-- What is inserted at a new key leaves all other rows as they are. -/
theorem get?_insert_of_new {t : Table κ ρ} {k k' : κ} {r r' : ρ} (hk : t.get? k = none)
    (h : t.get? k' = some r') : (t.insert k r).get? k' = some r' := by
  have hne : k' ≠ k := fun he => by simp [he, hk] at h
  rw [get?_insert, if_neg hne, h]

theorem get?_eq_some {t : Table κ ρ} {k : κ} {r : ρ} :
    t.get? k = some r ↔ (k, r) ∈ t.entries := by
  obtain ⟨es, h⟩ := t
  simp only [get?]
  induction es with
  | nil => simp
  | cons e es ih =>
    have ih := ih (List.nodup_cons.1 h).2
    have hn : ∀ r, (e.1, r) ∉ es := fun r hr =>
      (List.nodup_cons.1 h).1 (List.mem_map.2 ⟨_, hr, rfl⟩)
    by_cases he : e.1 = k
    · subst he
      obtain ⟨k, r'⟩ := e
      simp [hn, eq_comm]
    · have hne : (k, r) ≠ e := fun hk => he (by rw [← hk])
      simpa [he, hne] using ih

theorem contains_eq_false {t : Table κ ρ} {k : κ} : t.contains k = false ↔ t.get? k = none := by
  simp [contains]

theorem contains_eq_true {t : Table κ ρ} {k : κ} :
    t.contains k = true ↔ ∃ r, t.get? k = some r := by
  simp [contains, Option.isSome_iff_exists]

theorem mem_rows {t : Table κ ρ} {r : ρ} : r ∈ t.rows ↔ ∃ k, t.get? k = some r := by
  simp [rows, get?_eq_some]

theorem get?_filter (t : Table κ ρ) (p : κ → ρ → Bool) (k : κ) :
    (t.filter p).get? k = (t.get? k).filter (p k) := by
  ext r
  rw [get?_eq_some, Option.filter_eq_some_iff, get?_eq_some]
  simp [filter]

theorem get?_filter_eq_some {t : Table κ ρ} {p : κ → ρ → Bool} {k : κ} {r : ρ} :
    (t.filter p).get? k = some r ↔ t.get? k = some r ∧ p k r = true := by
  rw [get?_filter, Option.filter_eq_some_iff]

/-- A new row that is removed again leaves the table as it was. -/
theorem erase_insert {t : Table κ ρ} {k : κ} {r : ρ} (h : t.contains k = false) :
    (t.insert k r).erase k = t := by
  obtain ⟨es, hn⟩ := t
  have hk : k ∉ es.map Prod.fst := by
    rw [← contains_iff (t := ⟨es, hn⟩), h]
    exact Bool.false_ne_true
  simp only [insert, h, Bool.false_eq_true, dite_false, erase, filter, mk.injEq]
  rw [List.filter_cons_of_neg (by simp)]
  apply List.filter_eq_self.2
  intro e he
  have hne : e.1 ≠ k := fun hek => hk (List.mem_map.2 ⟨e, he, hek⟩)
  simp [hne]

/-- A change that is taken back leaves the table as it was. -/
theorem modify_modify {t : Table κ ρ} {k : κ} {f g : ρ → ρ} (h : ∀ r, g (f r) = r) :
    (t.modify k f).modify k g = t := by
  obtain ⟨es, hn⟩ := t
  simp only [modify, List.map_map, mk.injEq]
  apply List.map_id''
  intro ⟨k', r⟩
  by_cases hk : k' = k
  · simp only [Function.comp, hk, if_true, h]
  · simp only [Function.comp, hk, if_false]

end Table

end GroupAccess
