import GroupAccess.Json.Decode
import GroupAccess.Proofs.Codec.Except
import GroupAccess.Proofs.Json.Value
import Mathlib.Data.List.Nodup

namespace GroupAccess.Json

section

variable {α : Type} {decode : Decoder α} {a : α}

theorem of_decodeAll {bytes : List UInt8} (h : decodeAll decode bytes = .ok a) :
    decode (Parser.parse bytes).1 = .ok a := by
  unfold decodeAll at h
  generalize Parser.parse bytes = p at h
  obtain ⟨b, hb, h⟩ := bind_eq_ok.1 h
  split at h
  · cases h
    exact hb
  · cases h

/-- A value is read from its text, and blanks after it do not matter. -/
theorem Spells.decodeAll {d : Draft} {bytes blanks : List UInt8} (hs : Spells d bytes)
    (hb : Blank blanks) (hd : decode d = .ok a) : decodeAll decode (bytes ++ blanks) = .ok a := by
  have hstops := Parser.stops_append hb (show Parser.Stops [] from trivial)
  have hend := Parser.skipBlanks_append hb []
  rw [List.append_nil] at hstops hend
  simp only [Json.decodeAll, hs.parse hstops, hend]
  exact bind_eq_ok.2 ⟨a, hd, rfl⟩

theorem decodeAll_text {j : Json} (hd : decode j.draft = .ok a) :
    decodeAll decode (utf8 j.text) = .ok a := by
  have h := (spells_chars j).decodeAll blank_nil hd
  rwa [List.append_nil, ← utf8_ofList] at h

end

theorem contains_of_decodeInt {bounds : Decimal.Bounds} {d : Draft} {n : Int}
    (h : decodeInt bounds d = .ok n) : bounds.contains n = true := by
  unfold decodeInt at h
  split at h
  · split at h
    · split at h
      · cases h
        assumption
      · cases h
    · cases h
  · cases h

theorem Found.get_of_lookup {α : Type} {found : Found} {name : String} {decode : Decoder α}
    {d : Draft} {a : α} (hl : found.lookup name = some d) (hd : decode d = .ok a) :
    found.get name decode = .ok a := by
  rw [get, hl]
  exact hd

theorem Found.of_get {α : Type} {found : Found} {name : String} {decode : Decoder α} {a : α}
    (h : found.get name decode = .ok a) : ∃ d, decode d = .ok a := by
  unfold get at h
  split at h
  · exact ⟨_, h⟩
  · cases h

/-- What a record is built from has been found. -/
theorem of_decodeRecord {α : Type} {known : List Field} {build : Found → Except Fault α}
    {d : Draft} {a : α} (h : decodeRecord known build d = .ok a) :
    ∃ found, build found = .ok a := by
  unfold decodeRecord at h
  split at h
  · obtain ⟨found, -, h⟩ := bind_eq_ok.1 h
    exact ⟨found, h⟩
  · obtain ⟨found, -, h⟩ := bind_eq_ok.1 h
    exact ⟨found, h⟩
  · cases h

/-- A value that stands under a name once is found by it. -/
theorem Found.lookup_of_mem {found : Found} (hn : (found.map Prod.fst).Nodup) {name : String}
    {d : Draft} (hm : (name, d) ∈ found) : found.lookup name = some d := by
  obtain ⟨before, after, rfl⟩ := List.append_of_mem hm
  refine List.lookup_eq_some_iff.2 ⟨before, after, rfl, fun p hp => bne_iff_ne.2 ?_⟩
  rintro rfl
  rw [List.map_append, List.nodup_append] at hn
  exact hn.2.2 _ (List.mem_map_of_mem hp) _ List.mem_cons_self rfl

theorem Found.lookup_eq_none {found : Found} {name : String} (h : name ∉ found.map Prod.fst) :
    found.lookup name = none := by
  refine List.lookup_eq_none_iff.2 fun p hp => bne_iff_ne.2 ?_
  rintro rfl
  exact h (List.mem_map_of_mem hp)

section

variable {known : List Field}

/-- What a record keeps of a field, if its name is known. -/
def keeps (known : List Field) : Option String × Draft → Option (String × Draft)
  | (name, d) => name.bind fun name => (known.find? (·.name == name)).map fun _ => (name, d)

theorem keeps_known {name : String} {f : Field} (hf : known.find? (·.name == name) = some f)
    (d : Draft) : keeps known (some name, d) = some (name, d) := by
  rw [keeps, Option.bind_some, hf, Option.map_some]

theorem keeps_unknown {name : String} (hf : known.find? (·.name == name) = none) (d : Draft) :
    keeps known (some name, d) = none := by
  rw [keeps, Option.bind_some, hf, Option.map_none]

/-- A field that is gone over without a fault. -/
inductive Takes (known : List Field) : Option String × Draft → Prop
  | known {name : String} {d : Draft} {f : Field} (hf : known.find? (·.name == name) = some f)
      (hc : f.check d = .ok ()) : Takes known (some name, d)
  | unknown {name : String} {d : Draft} (hf : known.find? (·.name == name) = none)
      (hw : d.whole = true) : Takes known (some name, d)

/-- All fields are gone over, and those with known names are kept. -/
theorem collectFields_takes {fs : List (Option String × Draft)} {found : Found}
    (h : ∀ f ∈ fs, Takes known f)
    (hn : ((found ++ fs.filterMap (keeps known)).map Prod.fst).Nodup) :
    collectFields known found fs = .ok (found ++ fs.filterMap (keeps known)) := by
  induction fs generalizing found with
  | nil => rw [List.filterMap_nil, List.append_nil, collectFields]
  | cons f fs ih =>
    have hrest : ∀ g ∈ fs, Takes known g := fun g hg => h g (List.mem_cons_of_mem f hg)
    cases h f List.mem_cons_self with
    | @known name d f hf hc =>
      rw [List.filterMap_cons_some (keeps_known hf d), List.append_cons] at hn ⊢
      have hnew : found.lookup name = none := by
        refine Found.lookup_eq_none fun hm => ?_
        rw [List.map_append, List.map_append, List.append_assoc, List.nodup_append] at hn
        exact hn.2.2 _ hm _ List.mem_cons_self rfl
      simp only [collectFields, hf, hnew, Option.isSome_none, Bool.false_eq_true, if_false, hc]
      exact ih hrest hn
    | @unknown name d hf hw =>
      rw [List.filterMap_cons_none (keeps_unknown hf d)] at hn ⊢
      simp only [collectFields, hf, hw, if_true]
      exact ih hrest hn

/-- The fields of a record, as they stand in an object. -/
def Found.named (found : Found) : List (Option String × Draft) :=
  found.map fun p => (some p.1, p.2)

/-- The fields of a record are found in each order and among all others. -/
theorem Found.collectFields_perm {own : Found} {extra fs : List (Option String × Draft)}
    (hp : fs.Perm (own.named ++ extra)) (hn : (own.map Prod.fst).Nodup)
    (ho : ∀ p ∈ own, ∃ f, known.find? (·.name == p.1) = some f ∧ f.check p.2 = .ok ())
    (he : ∀ x ∈ extra, ∃ name, x.1 = some name ∧ known.find? (·.name == name) = none ∧
      x.2.whole = true) :
    ∃ found, collectFields known [] fs = .ok found ∧ ∀ p ∈ own, found.lookup p.1 = some p.2 := by
  have hown : own.named.filterMap (keeps known) = own := by
    clear hp hn
    induction own with
    | nil => rfl
    | cons p own ih =>
      obtain ⟨f, hf, -⟩ := ho p List.mem_cons_self
      have hrest := ih fun q hq => ho q (List.mem_cons_of_mem p hq)
      rw [named, List.map_cons, List.filterMap_cons_some (keeps_known hf p.2), ← named, hrest]
  have hextra : extra.filterMap (keeps known) = [] := by
    refine List.filterMap_eq_nil_iff.2 fun (x, d) hx => ?_
    obtain ⟨name, rfl, hf, -⟩ := he (x, d) hx
    exact keeps_unknown hf d
  have hkept : (fs.filterMap (keeps known)).Perm own := by
    have h := hp.filterMap (keeps known)
    rwa [List.filterMap_append, hown, hextra, List.append_nil] at h
  have hnodup : ((fs.filterMap (keeps known)).map Prod.fst).Nodup :=
    (hkept.map Prod.fst).nodup_iff.2 hn
  have htakes : ∀ f ∈ fs, Takes known f := by
    rintro ⟨x, d⟩ hf
    rcases List.mem_append.1 (hp.mem_iff.1 hf) with hf | hf
    · obtain ⟨p, hm, hpf⟩ := List.mem_map.1 hf
      obtain ⟨f, hfind, hc⟩ := ho p hm
      cases hpf
      exact .known hfind hc
    · obtain ⟨name, rfl, hfind, hw⟩ := he (x, d) hf
      exact .unknown hfind hw
  refine ⟨_, @collectFields_takes known fs [] htakes hnodup, fun p hm => ?_⟩
  exact lookup_of_mem hnodup (hkept.mem_iff.2 hm)

end

end GroupAccess.Json
