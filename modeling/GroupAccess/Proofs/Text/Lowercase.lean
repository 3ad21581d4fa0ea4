import GroupAccess.Email.Address
import GroupAccess.Proofs.Text.Trim

namespace GroupAccess

namespace CaseTable.Shift

def covers (s : Shift) (n : Nat) : Bool := s.first ≤ n && n ≤ s.last && (n - s.first) % s.step == 0

def image (s : Shift) (n : Nat) : Nat := (n + s.shift).toNat

/-- Every second character, or only one. -/
def alternates (s : Shift) : Bool := s.step == 2 || s.first == s.last

/-- No lower case by `s` is one of the characters that `u` changes. -/
def apart (s u : Shift) : Bool :=
  s.image s.last < u.first || u.last < s.image s.first ||
    (s.alternates && u.alternates && (s.image s.first + u.first) % 2 == 1)

/-- What no lower case may be: blanks, the capital with a dot, what is no character. -/
def barred : List (Nat × Nat) :=
  [(0, 32), (0x85, 0x85), (0xa0, 0xa0), (0x130, 0x130), (0x1680, 0x1680), (0x2000, 0x200a),
    (0x2028, 0x2029), (0x202f, 0x202f), (0x205f, 0x205f), (0x3000, 0x3000), (0xd800, 0xdfff)]

def sound (s : Shift) : Bool :=
  0 ≤ s.first + s.shift && s.image s.last < 0x110000 &&
    barred.all fun r => s.image s.last < r.1 || r.2 < s.image s.first

theorem shifts_apart : (shifts.all fun s => shifts.all fun u => s.apart u) = true := by
  decide +kernel

theorem shifts_sound : shifts.all sound = true := by
  decide +kernel

variable {s u : Shift} {n : Nat}

theorem alternates_even (h : s.alternates = true) (hn : s.covers n = true) :
    (n - s.first) % 2 = 0 := by
  simp only [alternates, covers, Bool.or_eq_true, Bool.and_eq_true, beq_iff_eq,
    decide_eq_true_eq] at h hn
  obtain ⟨⟨hf, hl⟩, hs⟩ := hn
  rcases h with h | h
  · rwa [h] at hs
  · have hz : n - s.first = 0 := by omega
    rw [hz]

theorem image_between (hs : s.sound = true) (hn : s.covers n = true) :
    s.image n = s.image s.first + (n - s.first) ∧ s.image n ≤ s.image s.last := by
  simp only [sound, covers, image, Bool.and_eq_true, decide_eq_true_eq] at *
  omega

theorem covers_image (ha : s.apart u = true) (hs : s.sound = true) (hn : s.covers n = true) :
    u.covers (s.image n) = false := by
  apply Bool.eq_false_iff.2
  intro hu
  have hb := image_between hs hn
  have hc := hu
  simp only [covers, Bool.and_eq_true, decide_eq_true_eq] at hc
  simp only [apart, Bool.or_eq_true, Bool.and_eq_true, decide_eq_true_eq, beq_iff_eq] at ha
  rcases ha with (h | h) | ⟨⟨h1, h2⟩, h3⟩
  · omega
  · omega
  · have he := alternates_even h1 hn
    have he' := alternates_even h2 hu
    omega

end CaseTable.Shift

namespace Text

open CaseTable

/-- A character that no shift covers is its own lower case. -/
theorem lowerChar_uncovered {c : Char} (h : ∀ u ∈ shifts, u.covers c.toNat = false)
    (hd : c.toNat ≠ 0x130) : lowerChar c = [c] := by
  have hl : c.toLower = c := by
    have hu := h ⟨65, 90, 1, 32⟩ (List.mem_cons_self ..)
    simp only [Shift.covers, Nat.mod_one, beq_self_eq_true, Bool.and_true, Bool.and_eq_false_iff,
      decide_eq_false_iff_not] at hu
    unfold Char.toLower
    rw [dif_neg]
    rintro ⟨hA, hZ⟩
    rcases hu with hu | hu
    · exact hu hA
    · exact hu hZ
  have hf : (shifts.find? fun s => s.covers c.toNat) = none :=
    List.find?_eq_none.2 fun u hu => Bool.eq_false_iff.1 (h u hu)
  simp only [Shift.covers] at hf
  simp only [lowerChar, hd, if_false, hl, hf]
  exact ite_self _

/-- A character that lower case leaves as it is, wherever it stands. -/
def IsLower (c : Char) : Prop := c ≠ 'Σ' ∧ lowerChar c = [c]

instance (c : Char) : Decidable (IsLower c) := inferInstanceAs (Decidable (_ ∧ _))

theorem toLower_isLower : ∀ n < 128, IsLower (Char.ofNat n).toLower ∧
    (isBlank (Char.ofNat n).toLower = true → isBlank (Char.ofNat n) = true) := by
  decide +kernel

theorem isBlank_barred {c : Char} (h : isBlank c = true) :
    ∃ r ∈ Shift.barred, r.1 ≤ c.toNat ∧ c.toNat ≤ r.2 := by
  simp only [isBlank, Bool.or_eq_true, Bool.and_eq_true, decide_eq_true_eq, beq_iff_eq] at h
  simp only [Shift.barred, List.mem_cons, List.not_mem_nil, or_false, exists_eq_or_imp,
    exists_eq_left]
  omega

/-- The lower case of a character that a shift covers. -/
theorem isLower_image {s : Shift} {n : Nat} (hs : s ∈ shifts) (hn : s.covers n = true) :
    IsLower (Char.ofNat (s.image n)) ∧ isBlank (Char.ofNat (s.image n)) = false := by
  have hsound := List.all_eq_true.1 Shift.shifts_sound s hs
  have hb := Shift.image_between hsound hn
  have ho : ∀ r ∈ Shift.barred, ¬(r.1 ≤ s.image n ∧ s.image n ≤ r.2) := by
    intro r hr
    have hr := List.all_eq_true.1 (Bool.and_eq_true_iff.1 hsound).2 r hr
    simp only [Bool.or_eq_true, decide_eq_true_eq] at hr
    omega
  have hv : (s.image n).isValidChar := by
    have hp := ho (0xd800, 0xdfff) (by decide)
    have hm : s.image s.last < 0x110000 :=
      of_decide_eq_true (Bool.and_eq_true_iff.1 (Bool.and_eq_true_iff.1 hsound).1).2
    simp only at hp
    unfold Nat.isValidChar
    omega
  have hc : (Char.ofNat (s.image n)).toNat = s.image n := by
    rw [Char.ofNat, dif_pos hv]
    rfl
  have hu : ∀ u ∈ shifts, u.covers (s.image n) = false := fun u hu =>
    Shift.covers_image (List.all_eq_true.1 (List.all_eq_true.1 Shift.shifts_apart s hs) u hu)
      hsound hn
  refine ⟨⟨?_, ?_⟩, ?_⟩
  · intro h
    have hcover : (shifts.any fun u => u.covers 931) = true := by decide +kernel
    obtain ⟨u, hm, h931⟩ := List.any_eq_true.1 hcover
    rw [h] at hc
    have hn := hu u hm
    rw [← hc] at hn
    exact Bool.false_ne_true (hn.symm.trans h931)
  · apply lowerChar_uncovered
    · rwa [hc]
    · rw [hc]
      intro h
      exact ho (0x130, 0x130) (by decide) (by rw [h]; decide)
  · apply Bool.eq_false_iff.2
    intro h
    obtain ⟨r, hr, h⟩ := isBlank_barred h
    rw [hc] at h
    exact ho r hr h

theorem lowerChar_isLower {c c' : Char} (hc : c ≠ 'Σ') (h : c' ∈ lowerChar c) :
    IsLower c' ∧ (isBlank c' = true → isBlank c = true) := by
  by_cases ha : c.toNat < 128
  · have hl := toLower_isLower c.toNat ha
    rw [Char.ofNat_toNat] at hl
    simp only [lowerChar, if_pos ha, List.mem_singleton] at h
    rwa [h]
  by_cases hd : c.toNat = 0x130
  · simp only [lowerChar, if_neg ha, if_pos hd, List.mem_cons, List.not_mem_nil, or_false] at h
    rcases h with rfl | rfl
    · exact ⟨by decide +kernel, fun hb => absurd hb (by decide)⟩
    · exact ⟨by decide +kernel, fun hb => absurd hb (by decide)⟩
  cases hf : shifts.find? fun s => s.covers c.toNat with
  | none =>
    have hu : ∀ u ∈ shifts, u.covers c.toNat = false := fun u hu =>
      Bool.eq_false_iff.2 (List.find?_eq_none.1 hf u hu)
    have hl := lowerChar_uncovered hu hd
    rw [hl, List.mem_singleton] at h
    subst h
    exact ⟨⟨hc, hl⟩, id⟩
  | some s =>
    have hl : lowerChar c = [Char.ofNat (s.image c.toNat)] := by
      simp only [Shift.covers] at hf
      simp only [lowerChar, if_neg ha, if_neg hd, hf, Shift.image]
    rw [hl, List.mem_singleton] at h
    have hn := List.find?_some hf
    have hi := isLower_image (List.mem_of_find?_eq_some hf) hn
    rw [h]
    exact ⟨hi.1, fun hb => absurd hb (Bool.eq_false_iff.1 hi.2)⟩

theorem lowerChar_ne_nil (c : Char) : lowerChar c ≠ [] := by
  simp only [lowerChar]
  split
  · exact List.cons_ne_nil _ _
  split
  · exact List.cons_ne_nil _ _
  split
  · exact List.cons_ne_nil _ _
  · exact List.cons_ne_nil _ _

/-- The lower case of a character in its place is some characters, all of them lower. -/
theorem lowerAfter_cons (before : List Char) (c : Char) (rest : List Char) :
    ∃ here, here ≠ [] ∧ (∀ c' ∈ here, IsLower c' ∧ (isBlank c' = true → isBlank c = true)) ∧
      lowerAfter before (c :: rest) = here ++ lowerAfter (c :: before) rest := by
  refine ⟨_, ?_, ?_, rfl⟩
  · split
    · exact List.cons_ne_nil _ _
    · exact lowerChar_ne_nil c
  · intro c' hc'
    split at hc'
    · split at hc'
      all_goals
        rw [List.mem_singleton] at hc'
        subst hc'
        exact ⟨by decide +kernel, fun hb => absurd hb (by decide)⟩
    · rename_i hc
      exact lowerChar_isLower hc hc'

theorem isLower_of_mem_lowerAfter {before text : List Char} {c : Char}
    (h : c ∈ lowerAfter before text) : IsLower c := by
  induction text generalizing before with
  | nil => cases h
  | cons d rest ih =>
    obtain ⟨here, -, hl, he⟩ := lowerAfter_cons before d rest
    rw [he, List.mem_append] at h
    rcases h with h | h
    · exact (hl c h).1
    · exact ih h

theorem lowerAfter_eq {before text : List Char} (h : ∀ c ∈ text, IsLower c) :
    lowerAfter before text = text := by
  induction text generalizing before with
  | nil => rfl
  | cons c rest ih =>
    obtain ⟨hs, hc⟩ := h c (List.mem_cons_self ..)
    rw [lowerAfter, ih fun d hd => h d (List.mem_cons_of_mem c hd), if_neg hs, hc]
    rfl

theorem head?_lowerAfter {before text : List Char} {c' : Char}
    (h : c' ∈ (lowerAfter before text).head?) :
    ∃ c ∈ text.head?, isBlank c' = true → isBlank c = true := by
  cases text with
  | nil => cases h
  | cons c rest =>
    obtain ⟨here, hn, hl, he⟩ := lowerAfter_cons before c rest
    obtain ⟨d, ds, rfl⟩ := List.exists_cons_of_ne_nil hn
    rw [he] at h
    cases h
    exact ⟨c, rfl, (hl _ (List.mem_cons_self ..)).2⟩

theorem getLast?_lowerAfter {before text : List Char} {c' : Char}
    (h : c' ∈ (lowerAfter before text).getLast?) :
    ∃ c ∈ text.getLast?, isBlank c' = true → isBlank c = true := by
  induction text generalizing before with
  | nil => cases h
  | cons c rest ih =>
    obtain ⟨here, -, hl, he⟩ := lowerAfter_cons before c rest
    rw [he, List.getLast?_append] at h
    cases rest with
    | nil => exact ⟨c, rfl, (hl c' (List.mem_of_getLast? h)).2⟩
    | cons d ds =>
      obtain ⟨here', hn, -, he'⟩ := lowerAfter_cons (c :: before) d ds
      have hx : lowerAfter (c :: before) (d :: ds) ≠ [] := by
        rw [he']
        exact List.append_ne_nil_of_left_ne_nil hn _
      rw [List.getLast?_eq_some_getLast hx, Option.some_or] at h
      rw [← List.getLast?_eq_some_getLast hx] at h
      rw [List.getLast?_cons_cons]
      exact ih h

theorem Bare.lowerAfter {before text : List Char} (h : Bare text) :
    Bare (lowerAfter before text) := by
  constructor
  · intro c' hc'
    obtain ⟨c, hc, hb⟩ := head?_lowerAfter hc'
    exact Bool.eq_false_iff.2 fun hb' => Bool.eq_false_iff.1 (h.head c hc) (hb hb')
  · intro c' hc'
    obtain ⟨c, hc, hb⟩ := getLast?_lowerAfter hc'
    exact Bool.eq_false_iff.2 fun hb' => Bool.eq_false_iff.1 (h.last c hc) (hb hb')

theorem lowercase_lowercase (text : String) : lowercase (lowercase text) = lowercase text := by
  rw [lowercase, lowercase, String.toList_ofList, lowerAfter_eq fun c => isLower_of_mem_lowerAfter]

end Text

/-- The normal form of an address is its own normal form. -/
theorem Email.normalize_normalize (text : String) :
    Email.normalize (Email.normalize text) = Email.normalize text := by
  have hb : Text.Bare (Text.lowercase (Text.trim text)).toList := by
    rw [Text.lowercase, Text.trim, String.toList_ofList, String.toList_ofList]
    exact (Text.bare_trimChars _).lowerAfter
  have ht : Text.trim (Text.lowercase (Text.trim text)) = Text.lowercase (Text.trim text) := by
    rw [Text.trim, hb.trimChars_eq, String.ofList_toList]
  rw [normalize, normalize, ht, Text.lowercase_lowercase]

end GroupAccess
