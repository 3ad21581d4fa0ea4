import GroupAccess.Proofs.Json.Number
import GroupAccess.Proofs.Json.String
import Mathlib.Data.List.DropRight

namespace GroupAccess.Json

open Json.Parser

def Blank (ws : List UInt8) : Prop := ∀ b ∈ ws, isBlank b = true

theorem blank_nil : Blank [] := nofun

/-- The name of a field and the colon after it, with blanks before each. -/
inductive SpellsName : String → List UInt8 → Prop
  | mk {name : String} {before bs after : List UInt8} (hb : Blank before)
      (h : SpellsString name bs) (ha : Blank after) :
      SpellsName name (before ++ (bs ++ (after ++ [0x3a])))

mutual

/-- A value with blanks before it. -/
inductive Spells : Draft → List UInt8 → Prop
  | blank {d : Draft} {b : UInt8} {bs : List UInt8} (hb : isBlank b = true) (h : Spells d bs) :
      Spells d (b :: bs)
  | null : Spells .null [0x6e, 0x75, 0x6c, 0x6c]
  | yes : Spells (.bool true) [0x74, 0x72, 0x75, 0x65]
  | no : Spells (.bool false) [0x66, 0x61, 0x6c, 0x73, 0x65]
  | number {n : Numeral} {bs : List UInt8} (h : SpellsNumber n bs) : Spells (.number n) bs
  | string {s : String} {bs : List UInt8} (h : SpellsString s bs) : Spells (.string (some s)) bs
  | noItems {ws : List UInt8} (hw : Blank ws) : Spells (.array []) (0x5b :: (ws ++ [0x5d]))
  | array {ds : List Draft} {bs : List UInt8} (h : SpellsItems ds bs) :
      Spells (.array ds) (0x5b :: bs)
  | noFields {ws : List UInt8} (hw : Blank ws) : Spells (.object []) (0x7b :: (ws ++ [0x7d]))
  | object {fs : List (Option String × Draft)} {bs : List UInt8} (h : SpellsFields fs bs) :
      Spells (.object fs) (0x7b :: bs)

/-- The items of an array, up to the closing bracket. -/
inductive SpellsItems : List Draft → List UInt8 → Prop
  | last {d : Draft} {bs ws : List UInt8} (h : Spells d bs) (hw : Blank ws) :
      SpellsItems [d] (bs ++ (ws ++ [0x5d]))
  | more {d : Draft} {ds : List Draft} {bs ws tail : List UInt8} (h : Spells d bs)
      (hw : Blank ws) (ht : SpellsItems ds tail) :
      SpellsItems (d :: ds) (bs ++ (ws ++ 0x2c :: tail))

/-- The fields of an object, up to the closing brace. -/
inductive SpellsFields : List (Option String × Draft) → List UInt8 → Prop
  | last {name : String} {d : Draft} {ns bs ws : List UInt8} (hn : SpellsName name ns)
      (h : Spells d bs) (hw : Blank ws) :
      SpellsFields [(some name, d)] (ns ++ (bs ++ (ws ++ [0x7d])))
  | more {name : String} {d : Draft} {fs : List (Option String × Draft)}
      {ns bs ws tail : List UInt8} (hn : SpellsName name ns) (h : Spells d bs) (hw : Blank ws)
      (ht : SpellsFields fs tail) :
      SpellsFields ((some name, d) :: fs) (ns ++ (bs ++ (ws ++ 0x2c :: tail)))

end

namespace Parser

theorem skipBlanks_cons {b : UInt8} (hb : isBlank b = false) (bytes : List UInt8) :
    skipBlanks (b :: bytes) = b :: bytes :=
  List.dropWhile_cons_of_neg (Bool.eq_false_iff.1 hb)

theorem skipBlanks_append {ws : List UInt8} (hw : Blank ws) (bytes : List UInt8) :
    skipBlanks (ws ++ bytes) = skipBlanks bytes :=
  List.dropWhile_append_of_pos hw

/-- Blanks are skipped up to what is no blank. -/
theorem skipBlanks_before {ws : List UInt8} (hw : Blank ws) {b : UInt8} (hb : isBlank b = false)
    (bytes : List UInt8) : skipBlanks (ws ++ b :: bytes) = b :: bytes := by
  rw [skipBlanks_append hw, skipBlanks_cons hb]

theorem skipBlanks_skipBlanks (bytes : List UInt8) :
    skipBlanks (skipBlanks bytes) = skipBlanks bytes :=
  List.dropWhile_idempotent ..

/-- A blank ends a number, and so does what follows blanks if it ends one. -/
theorem stops_append {ws rest : List UInt8} (hw : Blank ws) (hr : Stops rest) :
    Stops (ws ++ rest) := by
  cases ws with
  | nil => exact hr
  | cons b ws =>
    have hb : isBlank b = true := hw b List.mem_cons_self
    simp only [isBlank, Bool.or_eq_true, beq_iff_eq] at hb
    obtain ((rfl | rfl) | rfl) | rfl := hb
    all_goals exact ⟨rfl, by decide, by decide, by decide⟩

section

variable (fuel : Nat) (bytes : List UInt8)

theorem value_skipBlanks : value fuel (skipBlanks bytes) = value fuel bytes := by
  cases fuel with
  | zero => rfl
  | succ fuel => simp only [value, skipBlanks_skipBlanks]

theorem items_skipBlanks : items fuel (skipBlanks bytes) = items fuel bytes := by
  cases fuel with
  | zero => rfl
  | succ fuel => simp only [items, value_skipBlanks]

theorem fields_skipBlanks : fields fuel (skipBlanks bytes) = fields fuel bytes := by
  cases fuel with
  | zero => rfl
  | succ fuel => simp only [fields, name?, skipBlanks_skipBlanks]

variable {bytes} {rest : List UInt8}

theorem value_scalar {b : UInt8} (hb : isBlank b = false) (ha : b ≠ 0x5b) (ho : b ≠ 0x7b) :
    value (fuel + 1) (b :: bytes) = scalar (b :: bytes) := by
  rw [value, skipBlanks_cons hb]
  split
  · exact absurd (List.cons.inj ‹_›).1 ha
  · exact absurd (List.cons.inj ‹_›).1 ho
  · rfl

/-- An array is read through its items. -/
theorem value_array {ds : List Draft} (hb : (skipBlanks bytes).head? ≠ some 0x5d)
    (h : items fuel bytes = (ds, rest)) : value (fuel + 1) (0x5b :: bytes) = (.array ds, rest) := by
  rw [← items_skipBlanks] at h
  rw [value, skipBlanks_cons rfl]
  simp only
  split
  · rename_i he
    rw [he] at hb
    exact absurd rfl hb
  · rw [h]

theorem value_object {fs : List (Option String × Draft)}
    (hb : (skipBlanks bytes).head? ≠ some 0x7d) (h : fields fuel bytes = (fs, rest)) :
    value (fuel + 1) (0x7b :: bytes) = (.object fs, rest) := by
  rw [← fields_skipBlanks] at h
  rw [value, skipBlanks_cons rfl]
  simp only
  split
  · rename_i he
    rw [he] at hb
    exact absurd rfl hb
  · rw [h]

variable {tail : List UInt8} {d : Draft}

theorem items_last (hv : value fuel bytes = (d, tail)) (ht : skipBlanks tail = 0x5d :: rest) :
    items (fuel + 1) bytes = ([d], rest) := by
  simp only [items, hv, ht]

theorem items_more {next : List UInt8} {ds : List Draft} (hv : value fuel bytes = (d, tail))
    (ht : skipBlanks tail = 0x2c :: next) (hi : items fuel next = (ds, rest)) :
    items (fuel + 1) bytes = (d :: ds, rest) := by
  simp only [items, hv, ht, hi]

variable {name : Option String} {colon start : List UInt8}

theorem fields_last (hn : name? bytes = some (name, colon)) (hc : colon? colon = some start)
    (hv : value fuel start = (d, tail)) (ht : skipBlanks tail = 0x7d :: rest) :
    fields (fuel + 1) bytes = ([(name, d)], rest) := by
  simp only [fields, hn, hc, hv, ht]

theorem fields_more {next : List UInt8} {fs : List (Option String × Draft)}
    (hn : name? bytes = some (name, colon)) (hc : colon? colon = some start)
    (hv : value fuel start = (d, tail)) (ht : skipBlanks tail = 0x2c :: next)
    (hf : fields fuel next = (fs, rest)) : fields (fuel + 1) bytes = ((name, d) :: fs, rest) := by
  simp only [fields, hn, hc, hv, ht, hf]

end

end Parser

section

variable {d : Draft} {bs : List UInt8}

theorem SpellsString.first {s : String} (h : SpellsString s bs) : ∃ tail, bs = 0x22 :: tail := by
  cases h
  exact ⟨_, rfl⟩

theorem SpellsName.first {name : String} (h : SpellsName name bs) (rest : List UInt8) :
    ∃ tail, skipBlanks (bs ++ rest) = 0x22 :: tail := by
  obtain ⟨hb, h, -⟩ := h
  obtain ⟨tail, rfl⟩ := h.first
  rw [List.append_assoc]
  exact ⟨_, skipBlanks_before hb rfl _⟩

/-- No value begins as an array ends. -/
theorem Spells.first (rest : List UInt8) : ∀ {d : Draft} {bs : List UInt8}, Spells d bs →
    ∃ b tail, skipBlanks (bs ++ rest) = b :: tail ∧ b ≠ 0x5d
  | _, _, .blank hb h => by
    obtain ⟨b, tail, hs, hne⟩ := h.first rest
    refine ⟨b, tail, ?_, hne⟩
    rw [List.cons_append, skipBlanks, List.dropWhile_cons_of_pos hb]
    exact hs
  | _, _, .number h => by
    obtain ⟨b, tail, rfl, hn⟩ := h.first
    have hfirst : isBlank b = false ∧ b ≠ 0x5d := by
      rcases hn with rfl | hn
      · decide
      · exact of_isDigit (p := fun b => isBlank b = false ∧ b ≠ 0x5d) (by decide) hn
    exact ⟨b, _, skipBlanks_cons hfirst.1 _, hfirst.2⟩
  | _, _, .string h => by
    obtain ⟨tail, rfl⟩ := h.first
    exact ⟨_, _, skipBlanks_cons rfl _, by decide⟩
  | _, _, .null => ⟨_, _, skipBlanks_cons rfl _, by decide⟩
  | _, _, .yes => ⟨_, _, skipBlanks_cons rfl _, by decide⟩
  | _, _, .no => ⟨_, _, skipBlanks_cons rfl _, by decide⟩
  | _, _, .noItems _ => ⟨_, _, skipBlanks_cons rfl _, by decide⟩
  | _, _, .array _ => ⟨_, _, skipBlanks_cons rfl _, by decide⟩
  | _, _, .noFields _ => ⟨_, _, skipBlanks_cons rfl _, by decide⟩
  | _, _, .object _ => ⟨_, _, skipBlanks_cons rfl _, by decide⟩

theorem Spells.ne_nil (h : Spells d bs) : bs ≠ [] := by
  rintro rfl
  obtain ⟨b, tail, hs, -⟩ := h.first []
  cases hs

theorem SpellsItems.first {ds : List Draft} (h : SpellsItems ds bs) (rest : List UInt8) :
    (skipBlanks (bs ++ rest)).head? ≠ some 0x5d := by
  have hfirst {d : Draft} {bs : List UInt8} (h : Spells d bs) (more : List UInt8) :
      (skipBlanks (bs ++ more ++ rest)).head? ≠ some 0x5d := by
    rw [List.append_assoc]
    obtain ⟨b, tail, hs, hne⟩ := h.first (more ++ rest)
    rw [hs]
    exact fun he => hne (Option.some.inj he)
  cases h with
  | last h _ => exact hfirst h _
  | more h _ _ => exact hfirst h _

theorem SpellsFields.first {fs : List (Option String × Draft)} (h : SpellsFields fs bs)
    (rest : List UInt8) : (skipBlanks (bs ++ rest)).head? ≠ some 0x7d := by
  have hfirst {name : String} {ns : List UInt8} (h : SpellsName name ns) (more : List UInt8) :
      (skipBlanks (ns ++ more ++ rest)).head? ≠ some 0x7d := by
    rw [List.append_assoc]
    obtain ⟨tail, hs⟩ := h.first (more ++ rest)
    rw [hs]
    exact nofun
  cases h with
  | last h _ _ => exact hfirst h _
  | more h _ _ _ => exact hfirst h _

end

theorem SpellsName.read {name : String} {bs : List UInt8} (h : SpellsName name bs)
    (rest : List UInt8) :
    ∃ colon, name? (bs ++ rest) = some (some name, colon) ∧ colon? colon = some rest := by
  obtain ⟨hb, h, ha⟩ := h
  rename_i before bs after
  obtain ⟨h⟩ := h
  rename_i cs bs
  refine ⟨after ++ 0x3a :: rest, ?_, ?_⟩
  · have hread := h.read (after ++ 0x3a :: rest)
    simp only [List.append_assoc, List.cons_append, List.nil_append, name?, skipBlanks_append hb,
      skipBlanks_cons (show isBlank 0x22 = false from rfl), hread]
  · rw [colon?, skipBlanks_before ha rfl]
    rfl

theorem exists_succ {n fuel : Nat} (hf : n + 1 ≤ fuel) : ∃ m, fuel = m + 1 ∧ n ≤ m :=
  ⟨fuel - 1, by omega, by omega⟩

theorem Spells.read_number {n : Numeral} {bs : List UInt8} (h : SpellsNumber n bs) (fuel : Nat)
    {rest : List UInt8} (hr : Stops rest) : value (fuel + 1) (bs ++ rest) = (.number n, rest) := by
  have hread := h.read hr
  obtain ⟨b, bytes, rfl, hn⟩ := h.first
  let p (b : UInt8) : Prop := isBlank b = false ∧ b ≠ 0x5b ∧ b ≠ 0x7b ∧ b ≠ 0x22 ∧ b ≠ 0x6e ∧
    b ≠ 0x74 ∧ b ≠ 0x66
  have hfirst : p b := by
    rcases hn with rfl | hn
    · decide
    · exact of_isDigit (by decide) hn
  obtain ⟨hblank, ha, ho, hq, hnull, htrue, hfalse⟩ := hfirst
  rw [List.cons_append] at hread ⊢
  rw [value_scalar fuel hblank ha ho]
  simp only [scalar, if_neg hq, if_neg hnull, if_neg htrue, if_neg hfalse, if_pos hn, hread]

theorem Spells.read_string {s : String} {bs : List UInt8} (h : SpellsString s bs) (fuel : Nat)
    (rest : List UInt8) : value (fuel + 1) (bs ++ rest) = (.string (some s), rest) := by
  obtain ⟨h⟩ := h
  rw [List.cons_append, value_scalar fuel rfl (by decide) (by decide), List.append_assoc]
  simp only [scalar, if_true, List.singleton_append, h.read]

mutual

/-- A value is read from its text, and reading stops after it. As many steps as there are bytes are
enough: each step goes over a byte. -/
theorem Spells.read : ∀ {d : Draft} {bs : List UInt8}, Spells d bs → ∀ {fuel : Nat},
    bs.length ≤ fuel → ∀ {rest : List UInt8}, Stops rest → value fuel (bs ++ rest) = (d, rest)
  | _, _, @Spells.blank _ b bs hb h, fuel, hf, rest, hr => by
    rw [List.length_cons] at hf
    have hskip : skipBlanks (b :: bs ++ rest) = skipBlanks (bs ++ rest) :=
      List.dropWhile_cons_of_pos hb
    rw [← value_skipBlanks, hskip, value_skipBlanks]
    exact h.read (by omega) hr
  | _, _, .null, fuel, hf, rest, _ => by
    obtain ⟨fuel, rfl, -⟩ := exists_succ hf
    rfl
  | _, _, .yes, fuel, hf, rest, _ => by
    obtain ⟨fuel, rfl, -⟩ := exists_succ hf
    rfl
  | _, _, .no, fuel, hf, rest, _ => by
    obtain ⟨fuel, rfl, -⟩ := exists_succ hf
    rfl
  | _, _, .number h, fuel, hf, rest, hr => by
    obtain ⟨b, bytes, rfl, -⟩ := h.first
    obtain ⟨fuel, rfl, -⟩ := exists_succ hf
    exact Spells.read_number h fuel hr
  | _, _, .string h, fuel, hf, rest, _ => by
    obtain ⟨tail, rfl⟩ := h.first
    obtain ⟨fuel, rfl, -⟩ := exists_succ hf
    exact Spells.read_string h fuel rest
  | _, _, Spells.noItems hw, fuel, hf, rest, _ => by
    obtain ⟨fuel, rfl, -⟩ := exists_succ hf
    rw [List.cons_append, List.append_assoc, value, skipBlanks_cons rfl]
    simp only [List.singleton_append, skipBlanks_before hw (show isBlank 0x5d = false from rfl)]
  | _, _, .array h, fuel, hf, rest, _ => by
    obtain ⟨fuel, rfl, hl⟩ := exists_succ hf
    exact value_array fuel (h.first rest) (h.read hl)
  | _, _, Spells.noFields hw, fuel, hf, rest, _ => by
    obtain ⟨fuel, rfl, -⟩ := exists_succ hf
    rw [List.cons_append, List.append_assoc, value, skipBlanks_cons rfl]
    simp only [List.singleton_append, skipBlanks_before hw (show isBlank 0x7d = false from rfl)]
  | _, _, .object h, fuel, hf, rest, _ => by
    obtain ⟨fuel, rfl, hl⟩ := exists_succ hf
    exact value_object fuel (h.first rest) (h.read hl)

theorem SpellsItems.read : ∀ {ds : List Draft} {bs : List UInt8}, SpellsItems ds bs →
    ∀ {fuel : Nat}, bs.length ≤ fuel → ∀ {rest : List UInt8}, items fuel (bs ++ rest) = (ds, rest)
  | _, _, .last h hw, fuel, hf, rest => by
    simp only [List.length_append, List.length_singleton, ← Nat.add_assoc] at hf
    obtain ⟨fuel, rfl, hl⟩ := exists_succ hf
    simp only [List.append_assoc, List.singleton_append]
    exact items_last fuel (h.read (by omega) (stops_append hw ⟨rfl, by decide⟩))
      (skipBlanks_before hw rfl _)
  | _, _, .more h hw ht, fuel, hf, rest => by
    simp only [List.length_append, List.length_cons, ← Nat.add_assoc] at hf
    obtain ⟨fuel, rfl, hl⟩ := exists_succ hf
    simp only [List.append_assoc, List.cons_append]
    exact items_more fuel (h.read (by omega) (stops_append hw ⟨rfl, by decide⟩))
      (skipBlanks_before hw rfl _) (ht.read (by omega))

theorem SpellsFields.read : ∀ {fs : List (Option String × Draft)} {bs : List UInt8},
    SpellsFields fs bs → ∀ {fuel : Nat}, bs.length ≤ fuel → ∀ {rest : List UInt8},
      fields fuel (bs ++ rest) = (fs, rest)
  | _, _, .last hn h hw, fuel, hf, rest => by
    simp only [List.length_append, List.length_singleton, ← Nat.add_assoc] at hf
    obtain ⟨fuel, rfl, hl⟩ := exists_succ hf
    simp only [List.append_assoc, List.singleton_append]
    obtain ⟨colon, hname, hcolon⟩ := hn.read _
    exact fields_last fuel hname hcolon
      (h.read (by omega) (stops_append hw ⟨rfl, by decide⟩)) (skipBlanks_before hw rfl _)
  | _, _, .more hn h hw ht, fuel, hf, rest => by
    simp only [List.length_append, List.length_cons, ← Nat.add_assoc] at hf
    obtain ⟨fuel, rfl, hl⟩ := exists_succ hf
    simp only [List.append_assoc, List.cons_append]
    obtain ⟨colon, hname, hcolon⟩ := hn.read _
    exact fields_more fuel hname hcolon (h.read (by omega) (stops_append hw ⟨rfl, by decide⟩))
      (skipBlanks_before hw rfl _) (ht.read (by omega))

end

/-- A text is read to the end of its value. -/
theorem Spells.parse {d : Draft} {bs : List UInt8} (h : Spells d bs) {rest : List UInt8}
    (hr : Stops rest) : parse (bs ++ rest) = (d, rest) := by
  refine h.read ?_ hr
  rw [List.length_append]
  omega

mutual

/-- Nothing of a value that has a text is cut off. -/
theorem Spells.whole : ∀ {d : Draft} {bs : List UInt8}, Spells d bs → d.whole = true
  | _, _, .blank _ h => h.whole
  | _, _, .null => rfl
  | _, _, .yes => rfl
  | _, _, .no => rfl
  | _, _, .number _ => rfl
  | _, _, .string _ => rfl
  | _, _, .noItems _ => rfl
  | _, _, .array h => h.whole
  | _, _, .noFields _ => rfl
  | _, _, .object h => h.whole

theorem SpellsItems.whole : ∀ {ds : List Draft} {bs : List UInt8}, SpellsItems ds bs →
    Draft.wholeItems ds = true
  | _, _, .last h _ => by rw [Draft.wholeItems, h.whole, Draft.wholeItems, Bool.and_true]
  | _, _, .more h _ ht => by rw [Draft.wholeItems, h.whole, ht.whole, Bool.and_true]

theorem SpellsFields.whole : ∀ {fs : List (Option String × Draft)} {bs : List UInt8},
    SpellsFields fs bs → Draft.wholeFields fs = true
  | _, _, .last _ h _ => by rw [Draft.wholeFields, h.whole, Draft.wholeFields, Bool.and_true]
  | _, _, .more _ h _ ht => by rw [Draft.wholeFields, h.whole, ht.whole, Bool.and_true]

end

/-- Each field of an object has a name, and its value has a text. -/
theorem SpellsFields.each : ∀ {fs : List (Option String × Draft)} {bs : List UInt8},
    SpellsFields fs bs → ∀ x ∈ fs, (∃ name, x.1 = some name) ∧ ∃ bs, Spells x.2 bs
  | _, _, @SpellsFields.last name _ _ bs _ _ h _, x, hx => by
    cases List.mem_singleton.1 hx
    exact ⟨⟨name, rfl⟩, bs, h⟩
  | _, _, @SpellsFields.more name _ _ _ bs _ _ _ h _ ht, x, hx => by
    rcases List.mem_cons.1 hx with rfl | hx
    · exact ⟨⟨name, rfl⟩, bs, h⟩
    · exact ht.each x hx

theorem Spells.each {fs : List (Option String × Draft)} : ∀ {bs : List UInt8},
    Spells (.object fs) bs → ∀ x ∈ fs, (∃ name, x.1 = some name) ∧ ∃ bs, Spells x.2 bs
  | _, .blank _ h => h.each
  | _, .noFields _ => nofun
  | _, .object h => h.each

end GroupAccess.Json
