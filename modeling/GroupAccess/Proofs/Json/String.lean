import GroupAccess.Json.Parser
import GroupAccess.Json.Value
import GroupAccess.Proofs.Codec.Text

namespace GroupAccess.Json

/-- Four digits in hexadecimal, of either case, and their number. -/
inductive SpellsHex : Nat → List UInt8 → Prop
  | mk {a b c d : UInt8} {i j k l : Nat} (hi : Hex.value? (Char.ofNat a.toNat) = some i)
      (hj : Hex.value? (Char.ofNat b.toNat) = some j)
      (hk : Hex.value? (Char.ofNat c.toNat) = some k)
      (hl : Hex.value? (Char.ofNat d.toNat) = some l) :
      SpellsHex (((i * 16 + j) * 16 + k) * 16 + l) [a, b, c, d]

/-- The ways to write a character in a string: as itself, by a letter after a backslash, by its
number, or by two surrogates. -/
inductive SpellsChar : Char → List UInt8 → Prop
  | plain {c : Char} (hq : c ≠ '"') (hb : c ≠ '\\') (hl : 32 ≤ c.toNat) :
      SpellsChar c (String.utf8EncodeChar c)
  | short {e b : UInt8} (he : Parser.simpleEscape? e = some b) :
      SpellsChar (Char.ofNat b.toNat) [0x5c, e]
  | unicode {n : Nat} {bs : List UInt8} (h : SpellsHex n bs) (hn : n.isValidChar) :
      SpellsChar (Char.ofNat n) (0x5c :: 0x75 :: bs)
  | pair {n m : Nat} {bs cs : List UInt8} (hn : SpellsHex n bs) (hm : SpellsHex m cs)
      (hl : Parser.isLeading n = true) (ht : Parser.isTrailing m = true) :
      SpellsChar (Char.ofNat (0x10000 + (n - 0xd800) * 0x400 + (m - 0xdc00)))
        (0x5c :: 0x75 :: (bs ++ 0x5c :: 0x75 :: cs))

/-- Characters of a string, each written in some way. -/
inductive SpellsChars : List Char → List UInt8 → Prop
  | nil : SpellsChars [] []
  | cons {c : Char} {cs : List Char} {bs more : List UInt8} (hc : SpellsChar c bs)
      (hcs : SpellsChars cs more) : SpellsChars (c :: cs) (bs ++ more)

/-- A string between its quotes. -/
inductive SpellsString : String → List UInt8 → Prop
  | mk {cs : List Char} {bs : List UInt8} (h : SpellsChars cs bs) :
      SpellsString (String.ofList cs) (0x22 :: (bs ++ [0x22]))

theorem SpellsHex.read {n : Nat} {bs : List UInt8} (h : SpellsHex n bs) (rest : List UInt8) :
    Parser.hex4? (bs ++ rest) = some (n, rest) := by
  obtain ⟨hi, hj, hk, hl⟩ := h
  simp only [List.cons_append, List.nil_append, Parser.hex4?, hi, hj, hk, hl, Option.bind_eq_bind,
    Option.bind_some]
  rfl

namespace Parser

theorem utf8Char_eq (n : Nat) : utf8Char n = String.utf8EncodeChar (Char.ofNat n) := by
  have hs : String.singleton (Char.ofNat n) = String.ofList [Char.ofNat n] := rfl
  rw [utf8Char, hs, utf8_ofList, charBytes_cons, charBytes_nil, List.append_nil]

/-- A byte that stands for itself in a string. -/
structure Plain (b : UInt8) : Prop where
  quote : b ≠ 0x22
  backslash : b ≠ 0x5c
  control : 0x20 ≤ b.toNat

section

variable {b : UInt8} (rest : List UInt8)

theorem piece?_plain (h : Plain b) : piece? (b :: rest) = some (.bytes [b], rest) := by
  have hc : ¬b < 0x20 := fun hb => Nat.not_lt.2 h.control (UInt8.lt_iff_toNat_lt.1 hb)
  simp only [piece?, if_neg h.quote, if_neg h.backslash, if_neg hc]

theorem piece?_short {e : UInt8} (hu : e ≠ 0x75) (he : simpleEscape? e = some b) :
    piece? (0x5c :: e :: rest) = some (.bytes [b], rest) := by
  have hs : piece? (0x5c :: e :: rest) = if e = 0x75 then
      (hex4? rest).map fun p => unicodePiece p.1 p.2
    else (simpleEscape? e).map fun b => (.bytes [b], rest) := rfl
  rw [hs, if_neg hu, he, Option.map_some]

theorem piece?_unicode : piece? (0x5c :: 0x75 :: rest) =
    (hex4? rest).map fun (n, rest) => unicodePiece n rest :=
  rfl

end

theorem plain_char {c : Char} (hq : c ≠ '"') (hb : c ≠ '\\') (hl : 32 ≤ c.toNat) {b : UInt8}
    (h : b ∈ String.utf8EncodeChar c) : Plain b := by
  by_cases ha : c.toNat < 128
  · have hn : b.toNat = c.toNat := by
      rw [encodeChar_ascii ha, List.mem_singleton] at h
      rw [h, UInt8.toNat_ofNat', Nat.mod_eq_of_lt (by omega)]
    have hne {d : Char} (hd : c ≠ d) : c.toNat ≠ d.toNat := fun he => hd (Char.toNat_inj.1 he)
    refine ⟨?_, ?_, by omega⟩
    · rintro rfl
      exact hne hq hn.symm
    · rintro rfl
      exact hne hb hn.symm
  · have hn := le_of_mem_encodeChar (Nat.not_lt.1 ha) h
    refine ⟨?_, ?_, by omega⟩
    · rintro rfl
      exact absurd hn (by decide)
    · rintro rfl
      exact absurd hn (by decide)

/-- Reading goes over `bs`, which stands for the text with the bytes `cs`, in at most as many steps
as there are bytes. -/
def Reads (bs cs : List UInt8) : Prop :=
  ∃ n ≤ bs.length, ∀ fuel sound done rest, stringAfter (fuel + n) sound done (bs ++ rest) =
    stringAfter fuel sound (cs.reverse ++ done) rest

namespace Reads

theorem nil : Reads [] [] := ⟨0, Nat.le_refl 0, fun _ _ _ _ => rfl⟩

theorem append {bs cs bs' cs' : List UInt8} (h : Reads bs cs) (h' : Reads bs' cs') :
    Reads (bs ++ bs') (cs ++ cs') := by
  obtain ⟨n, hn, h⟩ := h
  obtain ⟨m, hm, h'⟩ := h'
  refine ⟨m + n, by rw [List.length_append]; omega, fun fuel sound done rest => ?_⟩
  rw [← Nat.add_assoc, List.append_assoc, h, h', List.reverse_append, List.append_assoc]

theorem of_piece {b : UInt8} {bs cs : List UInt8}
    (h : ∀ rest, piece? (b :: (bs ++ rest)) = some (.bytes cs, rest)) : Reads (b :: bs) cs := by
  refine ⟨1, Nat.le_add_left 1 _, fun fuel sound done rest => ?_⟩
  rw [List.cons_append, stringAfter, h]

theorem plain {bs : List UInt8} (h : ∀ b ∈ bs, Plain b) : Reads bs bs := by
  induction bs with
  | nil => exact nil
  | cons b bs ih =>
    have hb : Reads [b] [b] := of_piece fun rest => piece?_plain rest (h b List.mem_cons_self)
    exact hb.append (ih fun c hc => h c (List.mem_cons_of_mem b hc))

theorem short {e b : UInt8} (hu : e ≠ 0x75) (he : simpleEscape? e = some b) :
    Reads [0x5c, e] [b] :=
  of_piece fun rest => piece?_short rest hu he

theorem unicode {n : Nat} {bs : List UInt8} (h : SpellsHex n bs) (hn : n.isValidChar) :
    Reads (0x5c :: 0x75 :: bs) (String.utf8EncodeChar (Char.ofNat n)) := by
  have hl : isLeading n = false := by
    simp only [isLeading, Bool.and_eq_false_iff, decide_eq_false_iff_not]
    rcases hn with hn | hn <;> omega
  have ht : isTrailing n = false := by
    simp only [isTrailing, Bool.and_eq_false_iff, decide_eq_false_iff_not]
    rcases hn with hn | hn <;> omega
  refine of_piece fun rest => ?_
  simp only [List.cons_append, piece?_unicode, h.read, Option.map_some, unicodePiece, hl, ht,
    Bool.false_eq_true, if_false, utf8Char_eq]

theorem pair {n m : Nat} {bs cs : List UInt8} (hn : SpellsHex n bs) (hm : SpellsHex m cs)
    (hl : isLeading n = true) (ht : isTrailing m = true) :
    Reads (0x5c :: 0x75 :: (bs ++ 0x5c :: 0x75 :: cs)) (String.utf8EncodeChar
      (Char.ofNat (0x10000 + (n - 0xd800) * 0x400 + (m - 0xdc00)))) := by
  refine of_piece fun rest => ?_
  simp only [List.cons_append, List.append_assoc, piece?_unicode, hn.read, hm.read, Option.map_some,
    unicodePiece, hl, ht, if_true, utf8Char_eq]

/-- What a byte after a backslash stands for is a character of one byte. -/
theorem short_char {e b : UInt8} (he : simpleEscape? e = some b) :
    Reads [0x5c, e] (String.utf8EncodeChar (Char.ofNat b.toNat)) := by
  have hu : e ≠ 0x75 := by
    rintro rfl
    cases he
  have hb : String.utf8EncodeChar (Char.ofNat b.toNat) = [b] := by
    unfold simpleEscape? at he
    split at he <;> cases he <;> rfl
  rw [hb]
  exact short hu he

theorem char {c : Char} {bs : List UInt8} (h : SpellsChar c bs) :
    Reads bs (String.utf8EncodeChar c) := by
  cases h with
  | plain hq hb hl => exact plain fun b => plain_char hq hb hl
  | short he => exact short_char he
  | unicode hn hv => exact unicode hn hv
  | pair hn hm hl ht => exact pair hn hm hl ht

theorem chars {cs : List Char} {bs : List UInt8} (h : SpellsChars cs bs) :
    Reads bs (charBytes cs) := by
  induction h with
  | nil => exact nil
  | cons hc _ ih =>
    rw [charBytes_cons]
    exact (char hc).append ih

end Reads

end Parser

open Json.Parser in
/-- A string is read as the text that it spells. -/
theorem SpellsChars.read {cs : List Char} {bs : List UInt8} (h : SpellsChars cs bs)
    (rest : List UInt8) : string? (bs ++ 0x22 :: rest) = some (some (String.ofList cs), rest) := by
  obtain ⟨n, hn, h⟩ := Reads.chars h
  let l := (bs ++ 0x22 :: rest).length
  have hl : n ≤ l := Nat.le_trans hn (by simp only [l, List.length_append]; omega)
  have hfuel : l + 1 = l - n + 1 + n := by omega
  have hclose : piece? (0x22 :: rest) = some (.close, rest) := rfl
  rw [string?, hfuel, h, stringAfter, hclose]
  simp only [List.append_nil, List.reverse_reverse, ofUtf8?_charBytes, if_true]

theorem spellsHex_control {n : Nat} (hn : n < 32) :
    SpellsHex n (charBytes ['0', '0', hexDigit (n / 16), hexDigit (n % 16)]) := by
  let digit (d : Nat) : UInt8 := UInt8.ofNat (hexDigit d).toNat
  have hbytes : ∀ n < 32, charBytes ['0', '0', hexDigit (n / 16), hexDigit (n % 16)] =
      [digit 0, digit 0, digit (n / 16), digit (n % 16)] := by decide
  have hvalue : ∀ d < 16, Hex.value? (Char.ofNat (digit d).toNat) = some d := by decide
  have hsum : ((0 * 16 + 0) * 16 + n / 16) * 16 + n % 16 = n := by omega
  have h := SpellsHex.mk (hvalue 0 (by omega)) (hvalue 0 (by omega)) (hvalue (n / 16) (by omega))
    (hvalue (n % 16) (by omega))
  rwa [hsum, ← hbytes n hn] at h

theorem spellsChar_escape (c : Char) : SpellsChar c (charBytes (escape c)) := by
  have hc {n : Nat} (h : c.toNat = n) : c = Char.ofNat n := by rw [← h, Char.ofNat_toNat]
  unfold escape
  split
  · subst c
    exact .short (e := 0x22) rfl
  split
  · subst c
    exact .short (e := 0x5c) rfl
  split
  · rw [hc ‹_›]
    exact .short (e := 0x62) rfl
  split
  · rw [hc ‹_›]
    exact .short (e := 0x74) rfl
  split
  · rw [hc ‹_›]
    exact .short (e := 0x6e) rfl
  split
  · rw [hc ‹_›]
    exact .short (e := 0x66) rfl
  split
  · rw [hc ‹_›]
    exact .short (e := 0x72) rfl
  split
  · have h := SpellsChar.unicode (spellsHex_control (n := c.toNat) ‹_›) (.inl (by omega))
    rwa [Char.ofNat_toNat] at h
  · rename_i hq hb _ _ _ _ _ hl
    rw [charBytes_cons, charBytes_nil, List.append_nil]
    exact .plain hq hb (Nat.not_lt.1 hl)

theorem spellsChars_escape (cs : List Char) : SpellsChars cs (charBytes (cs.flatMap escape)) := by
  induction cs with
  | nil => exact .nil
  | cons c cs ih =>
    rw [List.flatMap_cons, charBytes_append]
    exact .cons (spellsChar_escape c) ih

theorem spellsString_quote (s : String) : SpellsString s (charBytes (quote s.toList)) := by
  have h := SpellsString.mk (spellsChars_escape s.toList)
  rw [String.ofList_toList] at h
  rw [quote, charBytes_cons, charBytes_append]
  exact h

end GroupAccess.Json
