import GroupAccess.Json.Parser
import GroupAccess.Json.Value
import GroupAccess.Proofs.Codec.Text

namespace GroupAccess.Json

open Json.Parser

/-- Digits, at least one. -/
structure Digits (ds : List UInt8) : Prop where
  nonempty : ds ≠ []
  digits : ∀ d ∈ ds, isDigit d = true

/-- The digits before the point. -/
inductive SpellsWhole : List UInt8 → Prop
  | zero : SpellsWhole [0x30]
  | digits {d : UInt8} {ds : List UInt8} (hd : d ≠ 0x30) (h : Digits (d :: ds)) :
      SpellsWhole (d :: ds)

/-- The digits after the point, if there is one. -/
inductive SpellsFraction : Option (List UInt8) → List UInt8 → Prop
  | absent : SpellsFraction none []
  | present {ds : List UInt8} (h : Digits ds) : SpellsFraction (some ds) (0x2e :: ds)

/-- The power of ten, if there is one. -/
inductive SpellsExponent : Option Int → List UInt8 → Prop
  | absent : SpellsExponent none []
  | unsigned {e : UInt8} {ds : List UInt8} (he : e = 0x65 ∨ e = 0x45) (h : Digits ds) :
      SpellsExponent (some (digitsValue ds)) (e :: ds)
  | plus {e : UInt8} {ds : List UInt8} (he : e = 0x65 ∨ e = 0x45) (h : Digits ds) :
      SpellsExponent (some (digitsValue ds)) (e :: 0x2b :: ds)
  | minus {e : UInt8} {ds : List UInt8} (he : e = 0x65 ∨ e = 0x45) (h : Digits ds) :
      SpellsExponent (some (-digitsValue ds)) (e :: 0x2d :: ds)

/-- The number that has the digits and the power of ten that are given. -/
def Numeral.ofParts (negative : Bool) (digits : List UInt8) (fraction : Option (List UInt8))
    (exponent : Option Int) : Numeral where
  negative := negative
  digits := digitsValue (digits ++ fraction.getD [])
  exponent := exponent.getD 0 - (fraction.getD []).length
  plain := fraction.isNone && exponent.isNone

inductive SpellsNumber : Numeral → List UInt8 → Prop
  | unsigned {digits fs es : List UInt8} {fraction : Option (List UInt8)} {exponent : Option Int}
      (hd : SpellsWhole digits) (hf : SpellsFraction fraction fs)
      (he : SpellsExponent exponent es) :
      SpellsNumber (.ofParts false digits fraction exponent) (digits ++ (fs ++ es))
  | minus {digits fs es : List UInt8} {fraction : Option (List UInt8)} {exponent : Option Int}
      (hd : SpellsWhole digits) (hf : SpellsFraction fraction fs)
      (he : SpellsExponent exponent es) :
      SpellsNumber (.ofParts true digits fraction exponent) (0x2d :: (digits ++ (fs ++ es)))

namespace Parser

/-- What may follow a number: a byte by which it does not go on. -/
def Stops : List UInt8 → Prop
  | [] => True
  | b :: _ => isDigit b = false ∧ b ≠ 0x2e ∧ b ≠ 0x65 ∧ b ≠ 0x45

/-- Digits do not go on here. -/
def EndsDigits : List UInt8 → Prop
  | [] => True
  | b :: _ => isDigit b = false

theorem Stops.endsDigits {rest : List UInt8} (h : Stops rest) : EndsDigits rest := by
  cases rest with
  | nil => trivial
  | cons b rest => exact h.1

section

variable {rest : List UInt8}

theorem takeWhile_digits {ds : List UInt8} (hd : ∀ d ∈ ds, isDigit d = true)
    (h : EndsDigits rest) :
    (ds ++ rest).takeWhile isDigit = ds ∧ (ds ++ rest).dropWhile isDigit = rest := by
  rw [List.takeWhile_append_of_pos hd, List.dropWhile_append_of_pos hd]
  cases rest with
  | nil => exact ⟨List.append_nil ds, rfl⟩
  | cons b rest =>
    have hb := Bool.eq_false_iff.1 h
    rw [List.takeWhile_cons_of_neg hb, List.dropWhile_cons_of_neg hb, List.append_nil]
    exact ⟨rfl, rfl⟩

end

/-- What holds of ten bytes holds of every digit. -/
theorem of_isDigit {p : UInt8 → Prop} (hp : ∀ n < 10, p (UInt8.ofNat (n + 48))) {b : UInt8}
    (hb : isDigit b = true) : p b := by
  rw [isDigit, Bool.and_eq_true, decide_eq_true_iff, decide_eq_true_iff, UInt8.le_iff_toNat_le,
    UInt8.le_iff_toNat_le] at hb
  obtain ⟨hl, hu⟩ : 48 ≤ b.toNat ∧ b.toNat ≤ 57 := hb
  have h := hp (b.toNat - 48) (by omega)
  rwa [Nat.sub_add_cancel hl, UInt8.ofNat_toNat] at h

/-- The bytes of a number without sign. -/
def digitBytes (n : Nat) : List UInt8 := charBytes (Nat.toDigits 10 n)

section

variable {n : Nat}

theorem toNat_of_mem_toDigits {c : Char} (h : c ∈ Nat.toDigits 10 n) :
    48 ≤ c.toNat ∧ c.toNat ≤ 57 :=
  Char.isDigit_iff_toNat.1 (Nat.isDigit_of_mem_toDigits (by decide) (by decide) h)

theorem digitBytes_eq (n : Nat) :
    digitBytes n = (Nat.toDigits 10 n).map fun c => UInt8.ofNat c.toNat := by
  refine charBytes_ascii fun c hc => ?_
  have := toNat_of_mem_toDigits hc
  omega

/-- Every byte of a number is that of a digit, which its value and its order go by. -/
theorem mem_digitBytes {b : UInt8} (h : b ∈ digitBytes n) :
    ∃ c ∈ Nat.toDigits 10 n, b = UInt8.ofNat c.toNat ∧ b.toNat = c.toNat := by
  rw [digitBytes_eq] at h
  obtain ⟨c, hc, rfl⟩ := List.mem_map.1 h
  have := toNat_of_mem_toDigits hc
  exact ⟨c, hc, rfl, by rw [UInt8.toNat_ofNat', Nat.mod_eq_of_lt (by omega)]⟩

theorem isDigit_of_mem_digitBytes {b : UInt8} (h : b ∈ digitBytes n) : isDigit b = true := by
  obtain ⟨c, hc, -, hb⟩ := mem_digitBytes h
  obtain ⟨hl, hu⟩ := toNat_of_mem_toDigits hc
  rw [isDigit, Bool.and_eq_true, decide_eq_true_iff, decide_eq_true_iff, UInt8.le_iff_toNat_le,
    UInt8.le_iff_toNat_le, hb]
  exact ⟨hl, hu⟩

theorem digitsValue_digitBytes (n : Nat) : digitsValue (digitBytes n) = n := by
  have hfold (cs : List Char) (hc : ∀ c ∈ cs, c.toNat < 256) (k : Nat) :
      (cs.map fun c => UInt8.ofNat c.toNat).foldl (fun m b => m * 10 + (b.toNat - 48)) k =
        Nat.ofDigitChars 10 cs k := by
    induction cs generalizing k with
    | nil => rfl
    | cons c cs ih =>
      rw [List.map_cons, List.foldl_cons, ih fun d hd => hc d (List.mem_cons_of_mem c hd),
        Nat.ofDigitChars_cons, UInt8.toNat_ofNat', Nat.mod_eq_of_lt (hc c List.mem_cons_self),
        Nat.mul_comm]
      rfl
  rw [digitsValue, digitBytes_eq, hfold, Nat.ofDigitChars_ten_toDigits]
  intro c hc
  have := toNat_of_mem_toDigits hc
  omega

/-- No number but zero begins with a zero. -/
theorem head_toDigits (n : Nat) (hn : n ≠ 0) : (Nat.toDigits 10 n).head? ≠ some '0' := by
  induction n using Nat.strongRecOn with
  | ind n ih =>
    by_cases hs : n < 10
    · rw [Nat.toDigits_of_lt_base hs]
      have hd : ∀ m < 10, m ≠ 0 → [Nat.digitChar m].head? ≠ some '0' := by decide
      exact hd n hs hn
    · rw [Nat.toDigits_of_base_le (by decide) (Nat.not_lt.1 hs),
        List.head?_append, Option.or_of_isSome (List.isSome_head?.2 Nat.toDigits_ne_nil)]
      exact ih (n / 10) (by omega) (by omega)

theorem digitBytes_ne_nil (n : Nat) : digitBytes n ≠ [] := by
  rw [digitBytes_eq]
  exact fun h => Nat.toDigits_ne_nil (List.map_eq_nil_iff.1 h)

/-- The digits of a number may stand before a point. -/
theorem spellsWhole_digitBytes (n : Nat) : SpellsWhole (digitBytes n) := by
  obtain ⟨b, bs, hb⟩ := List.exists_cons_of_ne_nil (digitBytes_ne_nil n)
  have hdigits : Digits (b :: bs) :=
    ⟨List.cons_ne_nil b bs, fun d hd => isDigit_of_mem_digitBytes (n := n) (hb ▸ hd)⟩
  by_cases hn : n = 0
  · rw [hn]
    exact .zero
  · rw [hb]
    refine .digits ?_ hdigits
    rintro rfl
    rw [digitBytes_eq] at hb
    obtain ⟨c, cs, hcs, hc, -⟩ := List.map_eq_cons_iff.1 hb
    have hm := toNat_of_mem_toDigits (hcs ▸ List.mem_cons_self : c ∈ Nat.toDigits 10 n)
    refine head_toDigits n hn ?_
    have hz : c.toNat = 48 := by
      have := congrArg UInt8.toNat hc
      rwa [UInt8.toNat_ofNat', Nat.mod_eq_of_lt (by omega)] at this
    rw [hcs, List.head?_cons, Char.toNat_inj.1 (show c.toNat = '0'.toNat from hz)]

end

/-- The rest of a number after its sign. -/
def unsigned? (negative : Bool) (bytes : List UInt8) : Option (Numeral × List UInt8) := do
  let (digits, bytes) ← wholeDigits? bytes
  let (fraction, bytes) ← fraction? bytes
  let (exponent, bytes) ← exponent? bytes
  return (.ofParts negative digits fraction exponent, bytes)

theorem number?_unsigned {b : UInt8} {bytes : List UInt8} (hb : isDigit b = true) :
    number? (b :: bytes) = unsigned? false (b :: bytes) := by
  rw [number?, unsigned?]
  · rfl
  rintro _ he
  rw [(List.cons.inj he).1] at hb
  exact absurd hb (by decide)

end Parser

section

variable {rest : List UInt8}

theorem SpellsWhole.first {digits : List UInt8} (h : SpellsWhole digits) :
    ∃ d ds, digits = d :: ds ∧ isDigit d = true := by
  cases h with
  | zero => exact ⟨_, _, rfl, rfl⟩
  | digits _ h => exact ⟨_, _, rfl, h.digits _ List.mem_cons_self⟩

theorem SpellsWhole.read {digits : List UInt8} (h : SpellsWhole digits)
    (hr : EndsDigits rest) : wholeDigits? (digits ++ rest) = some (digits, rest) := by
  cases h with
  | zero =>
    have hzero : ∀ d ∈ [0x30], isDigit d = true := by
      intro d hd
      rw [List.mem_singleton.1 hd]
      rfl
    obtain ⟨ht, hd⟩ := takeWhile_digits hzero hr
    simp only [wholeDigits?, ht, hd]
  | @digits d ds hne h =>
    obtain ⟨ht, hd⟩ := takeWhile_digits h.digits hr
    simp only [wholeDigits?, ht, hd]
    split
    · exact absurd ‹_› (List.cons_ne_nil d ds)
    · exact absurd (List.cons.inj ‹_›).1 hne
    · rfl

theorem SpellsFraction.endsDigits {fraction : Option (List UInt8)} {fs : List UInt8}
    (h : SpellsFraction fraction fs) (hr : EndsDigits rest) : EndsDigits (fs ++ rest) := by
  cases h with
  | absent => exact hr
  | present _ => rfl

theorem SpellsFraction.read {fraction : Option (List UInt8)} {fs : List UInt8}
    (h : SpellsFraction fraction fs) (hr : EndsDigits rest) (hp : rest.head? ≠ some 0x2e) :
    fraction? (fs ++ rest) = some (fraction, rest) := by
  cases h with
  | absent =>
    rw [List.nil_append, fraction?]
    rintro tail rfl
    exact hp rfl
  | @present ds h =>
    obtain ⟨ht, hd⟩ := takeWhile_digits h.digits hr
    simp only [List.cons_append, fraction?, ht, hd, List.isEmpty_iff, if_neg h.nonempty]

theorem SpellsExponent.endsDigits {exponent : Option Int} {es : List UInt8}
    (h : SpellsExponent exponent es) (hr : Stops rest) :
    EndsDigits (es ++ rest) ∧ (es ++ rest).head? ≠ some 0x2e := by
  have hfirst {e : UInt8} (he : e = 0x65 ∨ e = 0x45) (tail : List UInt8) :
      EndsDigits (e :: tail) ∧ (e :: tail).head? ≠ some 0x2e := by
    rcases he with rfl | rfl
    · exact ⟨rfl, nofun⟩
    · exact ⟨rfl, nofun⟩
  cases h with
  | absent =>
    refine ⟨hr.endsDigits, ?_⟩
    cases rest with
    | nil => exact nofun
    | cons b rest => exact fun he => hr.2.1 (Option.some.inj he)
  | unsigned he _ => exact hfirst he _
  | plus he _ => exact hfirst he _
  | minus he _ => exact hfirst he _

theorem SpellsExponent.read {exponent : Option Int} {es : List UInt8}
    (h : SpellsExponent exponent es) (hr : Stops rest) :
    exponent? (es ++ rest) = some (exponent, rest) := by
  cases h with
  | absent =>
    cases rest with
    | nil => rfl
    | cons b rest => exact if_neg fun hb => hb.elim hr.2.2.1 hr.2.2.2
  | @unsigned e ds he h =>
    obtain ⟨ht, hd⟩ := takeWhile_digits h.digits hr.endsDigits
    have hsign {b : UInt8} {tail : List UInt8} (hb : isDigit b = false) :
        ds ++ rest ≠ b :: tail := by
      obtain ⟨d, ds, rfl⟩ := List.exists_cons_of_ne_nil h.nonempty
      rintro he
      have hdigit := h.digits d List.mem_cons_self
      rw [(List.cons.inj he).1, hb] at hdigit
      cases hdigit
    simp only [List.cons_append, exponent?, if_pos he]
    split
    · exact absurd ‹_› (hsign rfl)
    · exact absurd ‹_› (hsign rfl)
    · simp only [ht, hd, List.isEmpty_iff, if_neg h.nonempty, Bool.false_eq_true, if_false]
  | @plus e ds he h =>
    obtain ⟨ht, hd⟩ := takeWhile_digits h.digits hr.endsDigits
    simp only [List.cons_append, exponent?, if_pos he, ht, hd, List.isEmpty_iff,
      if_neg h.nonempty, Bool.false_eq_true, if_false]
  | @minus e ds he h =>
    obtain ⟨ht, hd⟩ := takeWhile_digits h.digits hr.endsDigits
    simp only [List.cons_append, exponent?, if_pos he, ht, hd, List.isEmpty_iff,
      if_neg h.nonempty, if_true]

theorem unsigned?_spelled (negative : Bool) {digits fs es : List UInt8}
    {fraction : Option (List UInt8)} {exponent : Option Int} (hd : SpellsWhole digits)
    (hf : SpellsFraction fraction fs) (he : SpellsExponent exponent es) (hr : Stops rest) :
    unsigned? negative (digits ++ (fs ++ es) ++ rest) =
      some (.ofParts negative digits fraction exponent, rest) := by
  obtain ⟨hends, hp⟩ := he.endsDigits hr
  simp only [unsigned?, List.append_assoc, hd.read (hf.endsDigits hends),
    hf.read hends hp, he.read hr, Option.bind_eq_bind, Option.bind_some]
  rfl

/-- A number begins with a minus or a digit. -/
theorem SpellsNumber.first {n : Numeral} {bs : List UInt8} (h : SpellsNumber n bs) :
    ∃ b bytes, bs = b :: bytes ∧ (b = 0x2d ∨ isDigit b = true) := by
  cases h with
  | unsigned hd hf he =>
    obtain ⟨d, ds, rfl, hfirst⟩ := hd.first
    exact ⟨d, _, rfl, .inr hfirst⟩
  | minus hd hf he => exact ⟨_, _, rfl, .inl rfl⟩

theorem SpellsNumber.read {n : Numeral} {bs : List UInt8} (h : SpellsNumber n bs)
    (hr : Stops rest) : number? (bs ++ rest) = some (n, rest) := by
  cases h with
  | unsigned hd hf he =>
    have hunsigned := unsigned?_spelled false hd hf he hr
    obtain ⟨d, ds, rfl, hfirst⟩ := hd.first
    rw [List.cons_append, List.cons_append, number?_unsigned hfirst]
    exact hunsigned
  | minus hd hf he => exact unsigned?_spelled true hd hf he hr

end

/-- How the service writes a whole number. -/
theorem spellsNumber_intChars (n : Int) :
    SpellsNumber ⟨n < 0, n.natAbs, 0, true⟩ (charBytes (intChars n)) := by
  have hparts (negative : Bool) : Numeral.ofParts negative (digitBytes n.natAbs) none none =
      ⟨negative, n.natAbs, 0, true⟩ := by
    rw [Numeral.ofParts, Option.getD_none, List.append_nil, digitsValue_digitBytes]
    rfl
  have hdigits := spellsWhole_digitBytes n.natAbs
  unfold intChars
  split
  · rename_i hn
    have h := SpellsNumber.minus hdigits .absent .absent
    rw [hparts, List.append_nil, List.append_nil] at h
    rw [decide_eq_true hn, charBytes_cons]
    exact h
  · rename_i hn
    have h := SpellsNumber.unsigned hdigits .absent .absent
    rw [hparts, List.append_nil, List.append_nil] at h
    rw [decide_eq_false hn]
    exact h

end GroupAccess.Json
