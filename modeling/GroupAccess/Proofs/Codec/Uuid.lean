import GroupAccess.Ident.Uuid
import GroupAccess.Proofs.Text.Split

namespace GroupAccess

namespace Hex

theorem value?_digit : ∀ n < 16, value? (digit n) = some n := by decide

theorem decode?_encode (bytes : List UInt8) : decode? (encode bytes) = some bytes := by
  induction bytes with
  | nil => rfl
  | cons b bytes ih =>
    have hb := b.toNat_lt
    have hv : b.toNat / 16 * 16 + b.toNat % 16 = b.toNat := by omega
    rw [encode, List.flatMap_cons, ← encode]
    simp only [List.cons_append, List.nil_append, decode?,
      value?_digit _ (show b.toNat / 16 < 16 by omega),
      value?_digit _ (show b.toNat % 16 < 16 by omega), ih, Option.bind_eq_bind, Option.bind_some,
      hv, UInt8.ofNat_toNat]
    rfl

theorem length_encode (bytes : List UInt8) : (encode bytes).length = 2 * bytes.length := by
  induction bytes with
  | nil => rfl
  | cons b bytes ih =>
    rw [encode, List.flatMap_cons, ← encode, List.length_append, ih]
    simp only [List.length_cons, List.length_nil]
    omega

theorem mem_encode {bytes : List UInt8} {c : Char} (h : c ∈ encode bytes) :
    ∃ n < 16, c = digit n := by
  obtain ⟨b, -, hc⟩ := List.mem_flatMap.1 h
  have hb := b.toNat_lt
  simp only [List.mem_cons, List.not_mem_nil, or_false] at hc
  rcases hc with rfl | rfl
  · exact ⟨_, by omega, rfl⟩
  · exact ⟨_, by omega, rfl⟩

theorem hyphen_not_mem_encode (bytes : List UInt8) : '-' ∉ encode bytes := by
  intro h
  obtain ⟨n, hn, hc⟩ := mem_encode h
  have hd : ∀ n < 16, '-' ≠ digit n := by decide
  exact hd n hn hc

end Hex

namespace Uuid

theorem ofBytes?_toList (u : Uuid) : ofBytes? u.bytes.toList = some u := by
  have hs : u.bytes.toList.toArray = u.bytes.toArray := rfl
  rw [ofBytes?, dif_pos (hs ▸ u.bytes.size_toArray)]
  rfl

theorem unbraced?_cons {c : Char} (h : c ≠ '{') (rest : List Char) :
    unbraced? (c :: rest) = none := by
  unfold unbraced?
  split
  · rename_i hc
    exact absurd (List.cons.inj hc).1 h
  · rfl

theorem afterUrn?_cons {c : Char} (h : c.toLower ≠ 'u') (rest : List Char) :
    afterUrn? (c :: rest) = none :=
  if_neg fun hc => h (List.cons.inj hc).1

/-- Digits in five groups, with hyphens between. -/
def grouped (digits : List Char) : List Char :=
  digits.take 8 ++ '-' :: ((digits.drop 8).take 4 ++ '-' :: ((digits.drop 12).take 4 ++
    '-' :: ((digits.drop 16).take 4 ++ '-' :: digits.drop 20)))

theorem ofHyphenated?_grouped {digits : List Char} (hl : digits.length = 32)
    (hh : '-' ∉ digits) : ofHyphenated? (grouped digits) = ofBare? digits := by
  have ht (n m : Nat) : '-' ∉ (digits.drop n).take m := fun h =>
    hh (List.mem_of_mem_drop (List.mem_of_mem_take h))
  have hsplit : Text.split '-' (grouped digits) =
      [digits.take 8, (digits.drop 8).take 4, (digits.drop 12).take 4, (digits.drop 16).take 4,
        digits.drop 20] := by
    rw [grouped, Text.split_append (fun h => hh (List.mem_of_mem_take h)),
      Text.split_append (ht 8 4), Text.split_append (ht 12 4), Text.split_append (ht 16 4),
      Text.split_of_not_mem fun h => hh (List.mem_of_mem_drop h)]
  have hjoin : digits.take 8 ++ (digits.drop 8).take 4 ++ (digits.drop 12).take 4 ++
      (digits.drop 16).take 4 ++ digits.drop 20 = digits := by
    have hnext (n m : Nat) : digits.take n ++ (digits.drop n).take m = digits.take (n + m) :=
      (List.take_add ..).symm
    rw [hnext 8 4, hnext 12 4, hnext 16 4, List.take_append_drop]
  rw [ofHyphenated?, hsplit]
  simp only [hjoin]
  rw [if_pos (by simp [hl])]

/-- The text that is written is read as the identifier it stands for. -/
theorem ofChars?_chars (u : Uuid) : ofChars? u.chars = some u := by
  have hl : (Hex.encode u.bytes.toList).length = 32 := by
    rw [Hex.length_encode, Vector.length_toList]
  have hbare : ofBare? (Hex.encode u.bytes.toList) = some u := by
    rw [ofBare?, Hex.decode?_encode]
    exact u.ofBytes?_toList
  have hhyphen : ofHyphenated? u.chars = some u :=
    (ofHyphenated?_grouped hl (Hex.hyphen_not_mem_encode _)).trans hbare
  have hlong : u.chars.length ≠ 32 := by
    simp [chars, hl]
  -- The text begins with a digit, so with neither a brace nor `urn:uuid:`.
  obtain ⟨n, hn, tail, ht⟩ : ∃ n < 16, ∃ tail, u.chars = Hex.digit n :: tail := by
    obtain ⟨c, rest, hc⟩ := List.exists_cons_of_length_eq_add_one hl
    obtain ⟨n, hn, rfl⟩ := Hex.mem_encode (hc ▸ List.mem_cons_self)
    rw [chars, hc]
    exact ⟨n, hn, _, rfl⟩
  have hdigit : ∀ n < 16, Hex.digit n ≠ '{' ∧ (Hex.digit n).toLower ≠ 'u' := by decide
  rw [ofChars?, if_neg hlong]
  rw [ht] at hhyphen ⊢
  rw [unbraced?_cons (hdigit n hn).1, afterUrn?_cons (hdigit n hn).2]
  exact hhyphen

theorem ofText?_text (u : Uuid) : ofText? u.text = some u := by
  rw [ofText?, text, String.toList_ofList, ofChars?_chars]

end Uuid

end GroupAccess
