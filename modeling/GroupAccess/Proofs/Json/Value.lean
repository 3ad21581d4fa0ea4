import GroupAccess.Json.Access
import GroupAccess.Proofs.Json.Spelling

namespace GroupAccess.Json

mutual

def draft : Json → Draft
  | .null => .null
  | .bool b => .bool b
  | .int n => .number ⟨n < 0, n.natAbs, 0, true⟩
  | .string s => .string (some s)
  | .array items => .array (drafts items)
  | .object fields => .object (namedDrafts fields)

def drafts : List Json → List Draft
  | [] => []
  | item :: rest => item.draft :: drafts rest

def namedDrafts : List (String × Json) → List (Option String × Draft)
  | [] => []
  | (name, value) :: rest => (some name, value.draft) :: namedDrafts rest

end

theorem Numeral.int?_natAbs (n : Int) : int? ⟨n < 0, n.natAbs, 0, true⟩ = some n := by
  by_cases hneg : n < 0
  · simp only [int?, decide_eq_true hneg, if_true, if_neg (show n.natAbs ≠ 0 by omega)]
    exact congrArg some (by omega)
  · simp only [int?, decide_eq_false hneg, if_true, Bool.false_eq_true, if_false]
    exact congrArg some (by omega)

theorem charBytes_array (item : Json) (more : List Json) :
    charBytes (Json.array (item :: more)).chars =
      0x5b :: (charBytes item.chars ++ charBytes (itemsAfter more)) := by
  rw [chars, charBytes_cons, charBytes_append]
  rfl

theorem charBytes_object (name : String) (item : Json) (more : List (String × Json)) :
    charBytes (Json.object ((name, item) :: more)).chars =
      0x7b :: (charBytes (quote name.toList) ++
        0x3a :: (charBytes item.chars ++ charBytes (fieldsAfter more))) := by
  rw [chars, charBytes_cons, charBytes_append, charBytes_cons, charBytes_append]
  rfl

theorem charBytes_itemsAfter (item : Json) (more : List Json) :
    charBytes (itemsAfter (item :: more)) =
      0x2c :: (charBytes item.chars ++ charBytes (itemsAfter more)) := by
  rw [itemsAfter, charBytes_cons, charBytes_append]
  rfl

theorem charBytes_fieldsAfter (name : String) (item : Json) (more : List (String × Json)) :
    charBytes (fieldsAfter ((name, item) :: more)) =
      0x2c :: (charBytes (quote name.toList) ++
        0x3a :: (charBytes item.chars ++ charBytes (fieldsAfter more))) := by
  rw [fieldsAfter, charBytes_cons, charBytes_append, charBytes_cons, charBytes_append]
  rfl

theorem spellsName_quote (name : String) :
    SpellsName name (charBytes (quote name.toList) ++ [0x3a]) :=
  .mk blank_nil (spellsString_quote name) blank_nil

mutual

theorem spells_chars : ∀ j : Json, Spells j.draft (charBytes j.chars)
  | .null => .null
  | .bool true => .yes
  | .bool false => .no
  | .int n => .number (spellsNumber_intChars n)
  | .string s => .string (spellsString_quote s)
  | .array [] => .noItems blank_nil
  | .array (item :: more) => by
    rw [charBytes_array]
    exact .array (spellsItems_chars item more)
  | .object [] => .noFields blank_nil
  | .object ((name, item) :: more) => by
    rw [charBytes_object]
    exact .object (spellsFields_chars name item more)
termination_by j => sizeOf j

theorem spellsItems_chars : ∀ (item : Json) (more : List Json),
    SpellsItems (item.draft :: drafts more) (charBytes item.chars ++ charBytes (itemsAfter more))
  | item, [] => .last (spells_chars item) blank_nil
  | item, next :: more => by
    rw [charBytes_itemsAfter]
    exact .more (spells_chars item) blank_nil (spellsItems_chars next more)
termination_by item more => sizeOf item + sizeOf more

theorem spellsFields_chars : ∀ (name : String) (item : Json) (more : List (String × Json)),
    SpellsFields ((some name, item.draft) :: namedDrafts more) (charBytes (quote name.toList) ++
      0x3a :: (charBytes item.chars ++ charBytes (fieldsAfter more)))
  | name, item, [] => by
    have h := SpellsFields.last (spellsName_quote name) (spells_chars item) blank_nil
    rwa [List.append_assoc] at h
  | name, item, (next, value) :: more => by
    rw [charBytes_fieldsAfter]
    have h := SpellsFields.more (spellsName_quote name) (spells_chars item) blank_nil
      (spellsFields_chars next value more)
    rwa [List.append_assoc] at h
termination_by _ item more => sizeOf item + sizeOf more

end

/-- The text of a value is read as the value, to its end. -/
theorem Parser.parse_text (j : Json) : parse (utf8 j.text) = (j.draft, []) := by
  have h := (spells_chars j).parse (show Parser.Stops [] from trivial)
  rwa [List.append_nil, ← utf8_ofList] at h

namespace Draft

mutual

/-- A value is got back from its draft. -/
theorem value_draft : ∀ j : Json, j.draft.value = j
  | .null => rfl
  | .bool _ => rfl
  | .string _ => rfl
  | .int n => by
    simp only [draft, value, decide_eq_true_eq]
    congr 1
    omega
  | .array items => congrArg Json.array (values_drafts items)
  | .object fields => congrArg Json.object (namedValues_namedDrafts fields)

theorem values_drafts : ∀ items : List Json, values (drafts items) = items
  | [] => rfl
  | item :: rest => congrArg₂ List.cons (value_draft item) (values_drafts rest)

theorem namedValues_namedDrafts :
    ∀ fields : List (String × Json), namedValues (namedDrafts fields) = fields
  | [] => rfl
  | (name, item) :: rest =>
    congrArg₂ List.cons (congrArg (Prod.mk name) (value_draft item)) (namedValues_namedDrafts rest)

end

variable {fields : List (String × Json)} {name : String}

/-- What was written first under a name is read under it. -/
theorem field?_draft (fields : List (String × Json)) (name : String) :
    (Json.object fields).draft.field? name = (fields.lookup name).map Json.draft := by
  change (namedDrafts fields).lookup (some name) = _
  induction fields with
  | nil => rfl
  | cons f rest ih =>
    obtain ⟨other, j⟩ := f
    have hname : (some name == some other) = (name == other) := rfl
    rw [namedDrafts, List.lookup_cons, List.lookup_cons, hname]
    cases name == other with
    | true => rfl
    | false => exact ih

theorem get_draft {j : Json} (h : fields.lookup name = some j) :
    (Json.object fields).draft.get name = j.draft := by
  rw [get, field?_draft, h]
  rfl

theorem stringAt_draft {s : String} (h : fields.lookup name = some (.string s)) :
    (Json.object fields).draft.stringAt name = s := by
  rw [stringAt, get_draft h]
  rfl

theorem intAt_draft {n : Int} (h : fields.lookup name = some (.int n)) :
    (Json.object fields).draft.intAt name = n := by
  rw [intAt, get_draft h, draft, int?, Numeral.int?_natAbs]
  rfl

theorem boolAt_draft {b : Bool} (h : fields.lookup name = some (.bool b)) :
    (Json.object fields).draft.boolAt name = b := by
  rw [boolAt, get_draft h]
  rfl

end Draft

end GroupAccess.Json
