import GroupAccess.Password.Stored
import GroupAccess.Proofs.Codec.Base64
import GroupAccess.Proofs.Json.Number
import GroupAccess.Proofs.Text.Split

namespace GroupAccess

namespace Base64

theorem standard_reads : standard.Reads := by
  unfold Alphabet.Reads
  decide

end Base64

namespace Decimal

theorem isDigit_eq (c : Char) : isDigit c = c.isDigit := by
  rw [isDigit, digit?, Bool.eq_iff_iff, Char.isDigit_iff_toNat]
  split
  · rename_i h
    exact ⟨fun _ => h, fun _ => rfl⟩
  · rename_i h
    exact ⟨fun hn => (by cases hn), fun hc => absurd hc h⟩

theorem value_eq (cs : List Char) : value cs = Nat.ofDigitChars 10 cs 0 := by
  rw [value, Nat.ofDigitChars_eq_foldl]
  refine congrFun (congrFun (congrArg _ (funext fun n => funext fun c => ?_)) 0) cs
  rw [Nat.mul_comm]
  rfl

theorem digitChar_of_isDigit {c : Char} (h : c.isDigit = true) :
    c.toNat - 48 < 10 ∧ Nat.digitChar (c.toNat - 48) = c := by
  have hc : 48 ≤ c.toNat ∧ c.toNat ≤ 57 := Char.isDigit_iff_toNat.1 h
  have hd : c.toNat - 48 < 10 := by omega
  refine ⟨hd, Char.toNat_inj.1 ?_⟩
  rw [Nat.toNat_digitChar_of_lt_ten hd]
  omega

/-- Digits that go on with a number are its last ones. -/
theorem toDigits_ofDigitChars {cs : List Char} (h : ∀ c ∈ cs, c.isDigit = true) {n : Nat}
    (hn : 0 < n) : Nat.toDigits 10 (Nat.ofDigitChars 10 cs n) = Nat.toDigits 10 n ++ cs := by
  induction cs generalizing n with
  | nil => rw [Nat.ofDigitChars_nil, List.append_nil]
  | cons c cs ih =>
    obtain ⟨hd, hdigit⟩ := digitChar_of_isDigit (h c List.mem_cons_self)
    have hlast := Nat.toDigits_append_toDigits (b := 10) (n := n) (d := c.toNat - 48) (by decide)
      hn hd
    rw [Nat.toDigits_of_lt_base hd, hdigit] at hlast
    have hrest := ih (fun d hd => h d (List.mem_cons_of_mem c hd)) (n := 10 * n + (c.toNat - 48))
      (by omega)
    calc
      Nat.toDigits 10 (Nat.ofDigitChars 10 (c :: cs) n)
        = Nat.toDigits 10 (10 * n + (c.toNat - 48)) ++ cs := by rw [Nat.ofDigitChars_cons]; exact hrest
      _ = Nat.toDigits 10 n ++ [c] ++ cs := by rw [hlast]
      _ = Nat.toDigits 10 n ++ c :: cs := by rw [List.append_assoc, List.singleton_append]

end Decimal

namespace Password.Stored

/-- Base64 in the standard alphabet has only characters that a value may have, and no dollar. -/
theorem encode_standard {bytes : List UInt8} {c : Char}
    (h : c ∈ Base64.encode Base64.standard bytes) : isValueChar c = true ∧ c ≠ '$' := by
  obtain ⟨n, hn, rfl⟩ := Base64.mem_encode h
  have hd : ∀ n < 64, isValueChar (Base64.standard.digit n) = true ∧
      Base64.standard.digit n ≠ '$' := by decide
  exact hd n hn

theorem dollar_not_mem_encode (bytes : List UInt8) :
    '$' ∉ Base64.encode Base64.standard bytes :=
  fun h => (encode_standard h).2 rfl

/-- Digits that do not begin with a zero, unless that is all, are the text of their value. -/
theorem toDigits_value {cs : List Char} (hne : cs ≠ []) (hdigits : ∀ c ∈ cs, c.isDigit = true)
    (hzero : cs.head? = some '0' → cs.length ≤ 1) : Nat.toDigits 10 (Decimal.value cs) = cs := by
  rw [Decimal.value_eq]
  cases cs with
  | nil => exact absurd rfl hne
  | cons c cs =>
    obtain ⟨hd, hdigit⟩ := Decimal.digitChar_of_isDigit (hdigits c List.mem_cons_self)
    have hrest : ∀ d ∈ cs, d.isDigit = true := fun d hd => hdigits d (List.mem_cons_of_mem c hd)
    rw [Nat.ofDigitChars_cons]
    by_cases hfirst : c = '0'
    · obtain rfl : cs = [] := by
        have hl := hzero (congrArg some hfirst)
        rw [List.length_cons] at hl
        exact List.length_eq_zero_iff.1 (by omega)
      subst hfirst
      rfl
    · have hpos : 0 < c.toNat - 48 := Nat.pos_of_ne_zero fun h0 => hfirst (by
        rw [← hdigit, h0]
        rfl)
      have happend := Decimal.toDigits_ofDigitChars hrest hpos
      rw [Nat.toDigits_of_lt_base hd, hdigit, List.singleton_append] at happend
      exact (congrArg (Nat.toDigits 10) (congrArg _ (Nat.zero_add _))).trans happend

/-- Numbers have one text. -/
theorem decimal?_eq_some {cs : List Char} {n : Nat} :
    decimal? cs = some n ↔ n < 4294967296 ∧ Nat.toDigits 10 n = cs := by
  constructor
  · intro h
    unfold decimal? at h
    split at h
    · cases h
    · rename_i hform
      split at h
      · rename_i hlt
        cases h
        simp only [Bool.or_eq_true, Bool.and_eq_true, Bool.not_eq_true', decide_eq_true_eq, not_or,
          not_and, Bool.not_eq_false, beq_iff_eq, List.all_eq_true, Decimal.isDigit_eq,
          List.isEmpty_iff, Nat.not_lt] at hform
        obtain ⟨⟨hne, hdigits⟩, hzero⟩ := hform
        exact ⟨hlt, toDigits_value hne hdigits hzero⟩
      · cases h
  · rintro ⟨hlt, rfl⟩
    have hdigits : ∀ c ∈ Nat.toDigits 10 n, Decimal.isDigit c = true := fun c hc => by
      rw [Decimal.isDigit_eq]
      exact Nat.isDigit_of_mem_toDigits (by decide) (by decide) hc
    have hvalue : Decimal.value (Nat.toDigits 10 n) = n := by
      rw [Decimal.value_eq, Nat.ofDigitChars_ten_toDigits]
    have hzero : (Nat.toDigits 10 n).head? = some '0' → (Nat.toDigits 10 n).length ≤ 1 := by
      intro hfirst
      by_cases hn : n = 0
      · subst hn
        decide
      · exact absurd hfirst (Json.Parser.head_toDigits n hn)
    unfold decimal?
    rw [if_neg, if_pos (hvalue.symm ▸ hlt : Decimal.value _ < _), hvalue]
    simp only [Bool.or_eq_true, Bool.and_eq_true, Bool.not_eq_true', decide_eq_true_eq, not_or,
      not_and, Bool.not_eq_false, beq_iff_eq, List.all_eq_true, List.isEmpty_iff]
    exact ⟨⟨Nat.toDigits_ne_nil, hdigits⟩, fun hfirst => Nat.not_lt.2 (hzero hfirst)⟩

/-- What texts of hashes are made of. -/
structure WellFormed (s : Stored) : Prop where
  algorithm : isName s.algorithm = true
  version : ∀ v, s.version = some v → v < 4294967296
  params : ∀ p ∈ s.params, isName p.1 = true ∧ isValue p.2 = true
  paramsLength : (Text.join ',' (s.params.map renderParam)).length ≤ 127
  /-- A single parameter of this name would be a version. -/
  unversioned : s.version = none → ∀ value, s.params ≠ [(['v'], value)]
  salt : ∀ t, s.salt = some t → 4 ≤ t.length ∧ isValue t = true
  output : ∀ bytes, s.output = some bytes → 10 ≤ bytes.length ∧ bytes.length ≤ 64
  salted : s.salt = none → s.output = none

def versionFields (version : Option Nat) : List (List Char) :=
  match version with
  | some v => [['v', '='] ++ Nat.toDigits 10 v]
  | none => []

def paramFields (params : List (List Char × List Char)) : List (List Char) :=
  if params.isEmpty then [] else [Text.join ',' (params.map renderParam)]

theorem render_eq (s : Stored) :
    s.render = Text.join '$' ([] :: s.algorithm ::
      (versionFields s.version ++ paramFields s.params ++ s.salt.toList ++
        s.output.toList.map (Base64.encode Base64.standard))) :=
  rfl

theorem not_mem_of_all {p : Char → Bool} {cs : List Char} (h : cs.all p = true) {c : Char}
    (hc : p c = false) : c ∉ cs := by
  intro hm
  rw [List.all_eq_true.1 h c hm] at hc
  cases hc

theorem not_mem_of_isName {cs : List Char} (h : isName cs = true) {c : Char}
    (hc : isNameChar c = false) : c ∉ cs :=
  not_mem_of_all (Bool.and_eq_true_iff.1 h).2 hc

theorem not_mem_of_isValue {cs : List Char} (h : isValue cs = true) {c : Char}
    (hc : isValueChar c = false) : c ∉ cs :=
  not_mem_of_all (Bool.and_eq_true_iff.1 h).2 hc

theorem param?_eq_some {cs : List Char} {p : List Char × List Char} :
    param? cs = some p ↔ (isName p.1 = true ∧ isValue p.2 = true) ∧ renderParam p = cs := by
  constructor
  · intro h
    unfold param? at h
    split at h
    · rename_i name value hs
      split at h
      · rename_i hform
        cases h
        exact ⟨Bool.and_eq_true_iff.1 hform, (Text.split_eq_cons_iff.1 hs).2⟩
      · cases h
    · cases h
  · rintro ⟨⟨hn, hv⟩, rfl⟩
    have hs : Text.split '=' (renderParam p) = [p.1, p.2] := by
      refine Text.split_eq_cons_iff.2 ⟨?_, rfl⟩
      simp only [List.mem_cons, List.not_mem_nil, or_false, forall_eq_or_imp, forall_eq]
      exact ⟨not_mem_of_isName hn (by decide), not_mem_of_isValue hv (by decide)⟩
    simp only [param?, hs, hn, hv, Bool.and_self, if_true]

theorem mapM_param?_eq_some {fields : List (List Char)} {ps : List (List Char × List Char)} :
    fields.mapM param? = some ps ↔
      (∀ p ∈ ps, isName p.1 = true ∧ isValue p.2 = true) ∧ ps.map renderParam = fields := by
  induction fields generalizing ps with
  | nil =>
    simp only [List.mapM_nil, Option.pure_def, Option.some_inj, List.map_eq_nil_iff]
    constructor
    · rintro rfl
      exact ⟨fun p hp => absurd hp List.not_mem_nil, rfl⟩
    · rintro ⟨-, rfl⟩
      rfl
  | cons field fields ih =>
    simp only [List.mapM_cons, Option.bind_eq_bind, Option.bind_eq_some_iff, Option.pure_def,
      Option.some_inj]
    constructor
    · rintro ⟨p, hp, rest, hrest, rfl⟩
      obtain ⟨hform, hfield⟩ := param?_eq_some.1 hp
      obtain ⟨hforms, hfields⟩ := ih.1 hrest
      exact ⟨List.forall_mem_cons.2 ⟨hform, hforms⟩, by rw [List.map_cons, hfield, hfields]⟩
    · rintro ⟨hforms, hfields⟩
      obtain ⟨p, rest, rfl, hfield, hrest⟩ := List.map_eq_cons_iff.1 hfields
      obtain ⟨hform, hforms⟩ := List.forall_mem_cons.1 hforms
      exact ⟨p, param?_eq_some.2 ⟨hform, hfield⟩, rest, ih.2 ⟨hforms, hrest⟩, rfl⟩

/-- Parameters have one text. -/
theorem params?_eq_some {cs : List Char} {ps : List (List Char × List Char)} :
    params? cs = some ps ↔ (cs.length ≤ 127 ∧ ps ≠ []) ∧
      (∀ p ∈ ps, isName p.1 = true ∧ isValue p.2 = true) ∧
      Text.join ',' (ps.map renderParam) = cs := by
  have hcomma {p : List Char × List Char} (hp : isName p.1 = true ∧ isValue p.2 = true) :
      ',' ∉ renderParam p := by
    rw [renderParam, List.mem_append, List.mem_cons, not_or, not_or]
    exact ⟨not_mem_of_isName hp.1 (by decide), by decide, not_mem_of_isValue hp.2 (by decide)⟩
  unfold params?
  constructor
  · intro h
    split at h
    · cases h
    · rename_i hl
      obtain ⟨hforms, hfields⟩ := mapM_param?_eq_some.1 h
      refine ⟨⟨Nat.not_lt.1 hl, ?_⟩, hforms, ?_⟩
      · rintro rfl
        exact Text.split_ne_nil cs hfields.symm
      · rw [hfields, Text.join_split]
  · rintro ⟨⟨hl, hne⟩, hforms, rfl⟩
    rw [if_neg (Nat.not_lt.2 hl), mapM_param?_eq_some]
    refine ⟨hforms, ?_⟩
    cases ps with
    | nil => exact absurd rfl hne
    | cons p ps =>
      refine (Text.split_join fun field hfield => ?_).symm
      obtain ⟨q, hq, rfl⟩ := List.mem_map.1 (List.map_cons ▸ hfield)
      exact hcomma (hforms q hq)

theorem salt?_eq_some {cs t : List Char} :
    salt? cs = some t ↔ (4 ≤ t.length ∧ isValue t = true) ∧ t = cs := by
  unfold salt?
  constructor
  · intro h
    split at h
    · cases h
      exact ⟨‹_›, rfl⟩
    · cases h
  · rintro ⟨h, rfl⟩
    exact if_pos h

/-- Outputs have one text. -/
theorem output?_eq_some {cs : List Char} {bytes : List UInt8} :
    output? cs = some bytes ↔ (10 ≤ bytes.length ∧ bytes.length ≤ 64) ∧
      Base64.encode Base64.standard bytes = cs := by
  simp only [output?, Option.bind_eq_bind, Option.bind_eq_some_iff]
  constructor
  · rintro ⟨found, hfound, h⟩
    split at h
    · cases h
      exact ⟨‹_›, Base64.encode_of_decode? hfound⟩
    · cases h
  · rintro ⟨h, rfl⟩
    exact ⟨bytes, Base64.decode?_encode Base64.standard_reads _, if_pos h⟩

theorem isValue_toDigits {n : Nat} (h : n < 4294967296) : isValue (Nat.toDigits 10 n) = true := by
  have hl : (Nat.toDigits 10 n).length ≤ 10 :=
    (Nat.length_toDigits_le_iff (by decide) (by decide)).2 (Nat.lt_trans h (by decide))
  rw [isValue, Bool.and_eq_true, decide_eq_true_eq, List.all_eq_true]
  refine ⟨by omega, fun c hc => ?_⟩
  have hd := Json.Parser.toNat_of_mem_toDigits hc
  have hdigit : '0' ≤ c ∧ c ≤ '9' := hd
  simp [isValueChar, hdigit]

/-- A version is the number after `v=`, unless a comma makes it parameters. -/
theorem takeVersion_eq_some {fields rest : List (List Char)} {version : Option Nat} :
    takeVersion fields = some (version, rest) ↔ fields = versionFields version ++ rest ∧
      (∀ v, version = some v → v < 4294967296) ∧
      (version = none → ∀ number more, fields = ('v' :: '=' :: number) :: more → ',' ∈ number) := by
  constructor
  · intro h
    unfold takeVersion at h
    split at h
    · rename_i number more
      split at h
      · rename_i hcomma
        cases h
        refine ⟨rfl, by simp, fun _ number' more' heq => ?_⟩
        cases heq
        exact hcomma
      · split at h
        · obtain ⟨v, hv, heq⟩ := Option.map_eq_some_iff.1 h
          cases heq
          obtain ⟨hlt, rfl⟩ := decimal?_eq_some.1 hv
          exact ⟨rfl, fun w hw => Option.some.inj hw ▸ hlt, by simp⟩
        · cases h
    · rename_i hother
      cases h
      exact ⟨rfl, by simp, fun _ number more heq => absurd heq (hother number more)⟩
  · rintro ⟨rfl, hlt, hcomma⟩
    cases version with
    | some v =>
      have hv := hlt v rfl
      have hno : ',' ∉ Nat.toDigits 10 v := not_mem_of_isValue (isValue_toDigits hv) (by decide)
      have hread : decimal? (Nat.toDigits 10 v) = some v := decimal?_eq_some.2 ⟨hv, rfl⟩
      simp only [versionFields, List.cons_append, List.nil_append, takeVersion, if_neg hno,
        isValue_toDigits hv, if_true, hread, Option.map_some]
    | none =>
      rw [versionFields, List.nil_append] at hcomma ⊢
      unfold takeVersion
      split
      · rename_i number more
        rw [if_pos (hcomma rfl number more rfl)]
      · rfl

/-- Parameters stand in a field with an equals sign. -/
theorem takeParams_eq_some {fields rest : List (List Char)} {ps : List (List Char × List Char)} :
    takeParams fields = some (ps, rest) ↔ fields = paramFields ps ++ rest ∧
      (∀ p ∈ ps, isName p.1 = true ∧ isValue p.2 = true) ∧
      (Text.join ',' (ps.map renderParam)).length ≤ 127 ∧
      (ps = [] → ∀ field ∈ rest.head?, '=' ∉ field) := by
  constructor
  · intro h
    unfold takeParams at h
    split at h
    · rename_i field more
      split at h
      · obtain ⟨found, hfound, heq⟩ := Option.map_eq_some_iff.1 h
        cases heq
        obtain ⟨⟨hl, hne⟩, hforms, rfl⟩ := params?_eq_some.1 hfound
        refine ⟨?_, hforms, hl, fun hn => absurd hn hne⟩
        rw [paramFields, if_neg (by simpa using hne), List.singleton_append]
      · rename_i hplain
        cases h
        refine ⟨rfl, by simp, by simp [Text.join], fun _ f hf => ?_⟩
        cases hf
        exact hplain
    · cases h
      exact ⟨rfl, by simp, by simp [Text.join], by simp⟩
  · rintro ⟨rfl, hforms, hl, hplain⟩
    cases ps with
    | nil =>
      change takeParams rest = some ([], rest)
      cases rest with
      | nil => rfl
      | cons field more => exact if_neg (hplain rfl field rfl)
    | cons p ps =>
      have heq : '=' ∈ Text.join ',' ((p :: ps).map renderParam) := by
        rw [List.map_cons]
        cases ps with
        | nil => simp [Text.join, renderParam]
        | cons q ps => simp [Text.join, renderParam]
      have hread := params?_eq_some.2 ⟨⟨hl, List.cons_ne_nil p ps⟩, hforms, rfl⟩
      rw [paramFields, if_neg (by simp), List.singleton_append, takeParams, if_pos heq, hread]
      rfl

/-- The salt and the output are the last fields. -/
def takeEnd : List (List Char) → Option (Option (List Char) × Option (List UInt8))
  | [] => some (none, none)
  | [salt] => (salt? salt).map fun t => (some t, none)
  | [salt, output] => (salt? salt).bind fun t => (output? output).map fun bytes => (some t, some bytes)
  | _ => none

theorem takeEnd_eq_some {fields : List (List Char)} {salt : Option (List Char)}
    {output : Option (List UInt8)} :
    takeEnd fields = some (salt, output) ↔
      fields = salt.toList ++ output.toList.map (Base64.encode Base64.standard) ∧
      (∀ t, salt = some t → 4 ≤ t.length ∧ isValue t = true) ∧
      (∀ bytes, output = some bytes → 10 ≤ bytes.length ∧ bytes.length ≤ 64) ∧
      (salt = none → output = none) := by
  constructor
  · intro h
    unfold takeEnd at h
    split at h
    · cases h
      exact ⟨rfl, by simp, by simp, fun _ => rfl⟩
    · obtain ⟨t, ht, heq⟩ := Option.map_eq_some_iff.1 h
      cases heq
      obtain ⟨hform, rfl⟩ := salt?_eq_some.1 ht
      exact ⟨rfl, fun u hu => Option.some.inj hu ▸ hform, by simp, fun _ => rfl⟩
    · obtain ⟨t, ht, h⟩ := Option.bind_eq_some_iff.1 h
      obtain ⟨bytes, hbytes, heq⟩ := Option.map_eq_some_iff.1 h
      cases heq
      obtain ⟨hform, rfl⟩ := salt?_eq_some.1 ht
      obtain ⟨hlength, rfl⟩ := output?_eq_some.1 hbytes
      exact ⟨rfl, fun u hu => Option.some.inj hu ▸ hform, fun b hb => Option.some.inj hb ▸ hlength,
        by simp⟩
    · cases h
  · rintro ⟨rfl, hsalt, houtput, hsalted⟩
    cases salt with
    | none =>
      cases hsalted rfl
      rfl
    | some t =>
      have ht := salt?_eq_some.2 ⟨hsalt t rfl, rfl⟩
      cases output with
      | none => simp [takeEnd, ht]
      | some bytes =>
        have hbytes := output?_eq_some.2 ⟨houtput bytes rfl, rfl⟩
        simp [takeEnd, ht, hbytes]

/-- A text is read field by field. -/
theorem parse?_eq_some {text : List Char} {s : Stored} :
    parse? text = some s ↔ ∃ fields after last,
      Text.split '$' text = [] :: s.algorithm :: fields ∧ isName s.algorithm = true ∧
      takeVersion fields = some (s.version, after) ∧ takeParams after = some (s.params, last) ∧
      takeEnd last = some (s.salt, s.output) := by
  unfold parse?
  constructor
  · intro h
    split at h
    · rename_i algorithm fields hs
      obtain ⟨_, hguard, h⟩ := Option.bind_eq_some_iff.1 h
      obtain ⟨⟨version, after⟩, hversion, h⟩ := Option.bind_eq_some_iff.1 h
      obtain ⟨⟨params, last⟩, hparams, h⟩ := Option.bind_eq_some_iff.1 h
      dsimp only at h
      have hname : isName algorithm = true := by
        by_cases hn : isName algorithm = true
        · exact hn
        · have hnone : (guard (isName algorithm = true) : Option Unit) = none := if_neg hn
          rw [hnone] at hguard
          cases hguard
      split at h
      · cases h
        exact ⟨fields, after, [], hs, hname, hversion, hparams, rfl⟩
      · simp only [Option.bind_eq_bind, Option.bind_eq_some_iff, Option.pure_def, Option.some_inj] at h
        obtain ⟨t, ht, rfl⟩ := h
        refine ⟨fields, after, _, hs, hname, hversion, hparams, ?_⟩
        rw [takeEnd, ht]
        rfl
      · simp only [Option.bind_eq_bind, Option.bind_eq_some_iff, Option.pure_def, Option.some_inj] at h
        obtain ⟨t, ht, bytes, hbytes, rfl⟩ := h
        refine ⟨fields, after, _, hs, hname, hversion, hparams, ?_⟩
        rw [takeEnd, ht, hbytes]
        rfl
      · cases h
    · cases h
  · rintro ⟨fields, after, last, hs, hname, hversion, hparams, hend⟩
    rw [hs]
    obtain ⟨algorithm, version, params, salt, output⟩ := s
    have hguard : (guard (isName algorithm = true) : Option Unit) = some () := if_pos hname
    dsimp only
    rw [hguard]
    simp only [hversion, hparams, Option.bind_eq_bind, Option.pure_def, Option.bind_some]
    unfold takeEnd at hend
    split at hend
    · cases hend
      rfl
    · obtain ⟨t, ht, heq⟩ := Option.map_eq_some_iff.1 hend
      cases heq
      simp only [ht, Option.bind_some]
    · obtain ⟨t, ht, hend⟩ := Option.bind_eq_some_iff.1 hend
      obtain ⟨bytes, hbytes, heq⟩ := Option.map_eq_some_iff.1 hend
      cases heq
      simp only [ht, hbytes, Option.bind_some]
    · cases hend

namespace WellFormed

variable {s : Stored}

theorem salt_plain (h : s.WellFormed) {field : List Char} (hf : field ∈ s.salt) {c : Char}
    (hc : isValueChar c = false) : c ∉ field :=
  not_mem_of_isValue (h.salt field hf).2 hc

/-- No field has a dollar in it. -/
theorem dollar_not_mem (h : s.WellFormed) {field : List Char}
    (hf : field ∈ [] :: s.algorithm :: (versionFields s.version ++ (paramFields s.params ++
      (s.salt.toList ++ s.output.toList.map (Base64.encode Base64.standard))))) : '$' ∉ field := by
  simp only [List.mem_cons, List.mem_append, Option.mem_toList, List.mem_map] at hf
  rcases hf with rfl | rfl | hf | hf | hf | ⟨bytes, -, rfl⟩
  · exact List.not_mem_nil
  · exact not_mem_of_isName h.algorithm (by decide)
  · cases hv : s.version with
    | none =>
      rw [hv] at hf
      cases hf
    | some v =>
      rw [hv] at hf
      rw [List.mem_singleton.1 hf, List.mem_append, not_or]
      exact ⟨by decide, not_mem_of_isValue (isValue_toDigits (h.version v hv)) (by decide)⟩
  · unfold paramFields at hf
    split at hf
    · cases hf
    · intro hd
      rw [List.mem_singleton.1 hf] at hd
      obtain hd | ⟨piece, hpiece, hd⟩ := Text.mem_join hd
      · cases hd
      · obtain ⟨p, hp, rfl⟩ := List.mem_map.1 hpiece
        obtain ⟨hname, hvalue⟩ := h.params p hp
        rw [renderParam, List.mem_append, List.mem_cons] at hd
        rcases hd with hd | hd | hd
        · exact not_mem_of_isName hname (by decide) hd
        · cases hd
        · exact not_mem_of_isValue hvalue (by decide) hd
  · exact h.salt_plain hf (by decide)
  · exact dollar_not_mem_encode bytes

/-- After the parameters there is no equals sign in the next field. -/
theorem equals_not_mem (h : s.WellFormed) {field : List Char}
    (hf : field ∈ (s.salt.toList ++ s.output.toList.map (Base64.encode Base64.standard)).head?) :
    '=' ∉ field := by
  cases ht : s.salt with
  | none =>
    rw [ht, h.salted ht] at hf
    cases hf
  | some t =>
    rw [ht] at hf
    cases hf
    exact h.salt_plain ht (by decide)

/-- Without a version no field is taken for one. -/
theorem comma_mem (h : s.WellFormed) (hn : s.version = none) {number : List Char}
    {more : List (List Char)} (hf : paramFields s.params ++
      (s.salt.toList ++ s.output.toList.map (Base64.encode Base64.standard)) =
        ('v' :: '=' :: number) :: more) : ',' ∈ number := by
  cases hp : s.params with
  | nil =>
    -- The salt has no equals sign.
    rw [hp] at hf
    have hequals : '=' ∈ 'v' :: '=' :: number := List.mem_cons_of_mem _ List.mem_cons_self
    refine absurd hequals (h.equals_not_mem ?_)
    change paramFields [] ++ _ = _ at hf
    rw [show paramFields [] = [] from rfl, List.nil_append] at hf
    rw [hf]
    rfl
  | cons p ps =>
    obtain ⟨hname, -⟩ := h.params p (by rw [hp]; exact List.mem_cons_self)
    have hequals : '=' ∉ p.1 := not_mem_of_isName hname (by decide)
    have hmore := h.unversioned hn p.2
    rw [hp] at hf hmore
    rw [paramFields, if_neg (by simp), List.singleton_append] at hf
    have hfield : Text.join ',' ((p :: ps).map renderParam) = 'v' :: '=' :: number :=
      (List.cons.inj hf).1
    have hfirst {rest : List Char} (heq : p.1 ++ '=' :: rest = 'v' :: '=' :: number) :
        p.1 = ['v'] ∧ rest = number := by
      cases hchars : p.1 with
      | nil =>
        rw [hchars] at heq
        cases heq
      | cons c cs =>
        rw [hchars, List.cons_append] at heq
        obtain ⟨rfl, htail⟩ := List.cons.inj heq
        cases cs with
        | nil => exact ⟨rfl, (List.cons.inj htail).2⟩
        | cons d cs =>
          rw [hchars, (List.cons.inj htail).1] at hequals
          simp at hequals
    cases ps with
    | nil =>
      obtain ⟨hv, -⟩ := hfirst hfield
      exact absurd (by rw [← hv]) hmore
    | cons q ps =>
      rw [List.map_cons, Text.join_cons (by simp), renderParam, List.append_assoc,
        List.cons_append] at hfield
      obtain ⟨-, rfl⟩ := hfirst hfield
      exact List.mem_append_right _ List.mem_cons_self

end WellFormed

/-- A text is read as a hash exactly if the hash is well formed and this is its text. -/
theorem parse?_eq_some_iff {text : List Char} {s : Stored} :
    parse? text = some s ↔ s.WellFormed ∧ s.render = text := by
  rw [parse?_eq_some]
  constructor
  · rintro ⟨fields, after, last, hs, hname, hversion, hparams, hend⟩
    obtain ⟨rfl, hnumber, hcomma⟩ := takeVersion_eq_some.1 hversion
    obtain ⟨rfl, hforms, hlength, -⟩ := takeParams_eq_some.1 hparams
    obtain ⟨rfl, hsalt, houtput, hsalted⟩ := takeEnd_eq_some.1 hend
    refine ⟨⟨hname, hnumber, hforms, hlength, fun hnone value hp => ?_, hsalt, houtput, hsalted⟩, ?_⟩
    · -- A single parameter without a comma would have been taken for the version.
      have hv : isValue value = true := (hforms (['v'], value) (by rw [hp]; exact List.mem_cons_self)).2
      refine not_mem_of_isValue hv (by decide) (hcomma hnone value
        (s.salt.toList ++ s.output.toList.map (Base64.encode Base64.standard)) ?_)
      rw [hnone, hp]
      rfl
    · rw [render_eq, ← (Text.split_eq_cons_iff.1 hs).2]
      simp only [List.append_assoc]
  · rintro ⟨h, rfl⟩
    refine ⟨_, _, _, ?_, h.algorithm, takeVersion_eq_some.2 ⟨rfl, h.version, ?_⟩,
      takeParams_eq_some.2 ⟨rfl, h.params, h.paramsLength, ?_⟩,
      takeEnd_eq_some.2 ⟨rfl, h.salt, h.output, h.salted⟩⟩
    · rw [render_eq]
      simp only [List.append_assoc]
      exact Text.split_join fun field => h.dollar_not_mem
    · intro hn number more hf
      refine @WellFormed.comma_mem s h hn number more ?_
      rwa [hn] at hf
    · exact fun _ field => h.equals_not_mem

end Password.Stored

end GroupAccess
