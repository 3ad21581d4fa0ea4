import GroupAccess.Bytes.Base64

namespace GroupAccess.Base64

/-- Every digit is read as the value that it is written for. -/
def Alphabet.Reads (a : Alphabet) : Prop := ∀ n < 64, a.value? (a.digit n) = some n

theorem urlSafe_reads : urlSafe.Reads := by
  unfold Alphabet.Reads
  decide

theorem ofNat_eq {b : UInt8} {n : Nat} (h : n = b.toNat) : UInt8.ofNat n = b := by
  rw [h, UInt8.ofNat_toNat]

variable {a : Alphabet}

/-- Reading gives back what was written. -/
theorem decode?_encode (ha : a.Reads) (bytes : List UInt8) :
    decode? a (encode a bytes) = some bytes := by
  fun_induction encode a bytes with
  | case1 => rfl
  | case2 x =>
    have hx := x.toNat_lt
    simp only [decode?, ha _ (show x.toNat / 4 < 64 by omega),
      ha _ (show x.toNat % 4 * 16 < 64 by omega), Option.bind_eq_bind, Option.bind_some]
    rw [if_pos (by omega), ofNat_eq (b := x) (by omega)]
  | case3 x y =>
    have hx := x.toNat_lt
    have hy := y.toNat_lt
    simp only [decode?, ha _ (show x.toNat / 4 < 64 by omega),
      ha _ (show x.toNat % 4 * 16 + y.toNat / 16 < 64 by omega),
      ha _ (show y.toNat % 16 * 4 < 64 by omega), Option.bind_eq_bind, Option.bind_some]
    rw [if_pos (by omega), ofNat_eq (b := x) (by omega), ofNat_eq (b := y) (by omega)]
  | case4 x y z rest ih =>
    have hx := x.toNat_lt
    have hy := y.toNat_lt
    have hz := z.toNat_lt
    simp only [decode?, ha _ (show x.toNat / 4 < 64 by omega),
      ha _ (show x.toNat % 4 * 16 + y.toNat / 16 < 64 by omega),
      ha _ (show y.toNat % 16 * 4 + z.toNat / 64 < 64 by omega),
      ha _ (show z.toNat % 64 < 64 by omega), ih, Option.bind_eq_bind, Option.bind_some]
    rw [ofNat_eq (b := x) (by omega), ofNat_eq (b := y) (by omega), ofNat_eq (b := z) (by omega)]
    rfl

theorem mem_encode {bytes : List UInt8} {c : Char} (h : c ∈ encode a bytes) :
    ∃ n < 64, c = a.digit n := by
  fun_induction encode a bytes with
  | case1 => cases h
  | case2 x =>
    have hx := x.toNat_lt
    simp only [List.mem_cons, List.not_mem_nil, or_false] at h
    rcases h with rfl | rfl
    · exact ⟨_, by omega, rfl⟩
    · exact ⟨_, by omega, rfl⟩
  | case3 x y =>
    have hx := x.toNat_lt
    have hy := y.toNat_lt
    simp only [List.mem_cons, List.not_mem_nil, or_false] at h
    rcases h with rfl | rfl | rfl
    · exact ⟨_, by omega, rfl⟩
    · exact ⟨_, by omega, rfl⟩
    · exact ⟨_, by omega, rfl⟩
  | case4 x y z rest ih =>
    have hx := x.toNat_lt
    have hy := y.toNat_lt
    have hz := z.toNat_lt
    simp only [List.mem_cons] at h
    rcases h with rfl | rfl | rfl | rfl | h
    · exact ⟨_, by omega, rfl⟩
    · exact ⟨_, by omega, rfl⟩
    · exact ⟨_, by omega, rfl⟩
    · exact ⟨_, by omega, rfl⟩
    · exact ih h

/-- No text has a point in it. -/
theorem point_not_mem_encode (bytes : List UInt8) : '.' ∉ encode urlSafe bytes := by
  intro h
  obtain ⟨n, hn, hc⟩ := mem_encode h
  have hd : ∀ n < 64, '.' ≠ urlSafe.digit n := by decide
  exact hd n hn hc

theorem encode_ne_nil {bytes : List UInt8} (h : bytes ≠ []) : encode a bytes ≠ [] := by
  fun_cases encode a bytes with
  | case1 => exact absurd rfl h
  | _ => exact List.cons_ne_nil _ _

theorem length_encode (a : Alphabet) (bytes : List UInt8) :
    (encode a bytes).length = (4 * bytes.length + 2) / 3 := by
  fun_induction encode a bytes with
  | case1 => rfl
  | case2 | case3 => simp
  | case4 x y z rest ih =>
    simp only [List.length_cons, ih]
    omega

/-- A character that has a value is the digit of it. -/
theorem Alphabet.digit_of_value? {c : Char} {n : Nat} (h : a.value? c = some n) :
    n < 64 ∧ a.digit n = c := by
  have hle : ∀ d e : Char, d ≤ e ↔ d.toNat ≤ e.toNat := fun d e => Iff.rfl
  have hu : 'A'.toNat = 65 ∧ 'Z'.toNat = 90 := by decide
  have hl : 'a'.toNat = 97 ∧ 'z'.toNat = 122 := by decide
  have hd : '0'.toNat = 48 ∧ '9'.toNat = 57 := by decide
  simp only [Alphabet.value?, hle, hu, hl, hd] at h
  split at h
  · cases h
    refine ⟨by omega, ?_⟩
    rw [digit, if_pos (by omega), Nat.sub_add_cancel (by omega), Char.ofNat_toNat]
  · split at h
    · cases h
      refine ⟨by omega, ?_⟩
      rw [digit, if_neg (by omega), if_pos (by omega), Nat.sub_add_cancel (by omega),
        Char.ofNat_toNat]
    · split at h
      · cases h
        refine ⟨by omega, ?_⟩
        rw [digit, if_neg (by omega), if_neg (by omega), if_pos (by omega), Nat.add_sub_cancel,
          Char.ofNat_toNat]
      · split at h
        · rename_i hc
          cases h
          exact ⟨by decide, hc.symm⟩
        · split at h
          · rename_i hc
            cases h
            exact ⟨by decide, hc.symm⟩
          · cases h

theorem toNat_ofNat {n : Nat} (h : n < 256) : (UInt8.ofNat n).toNat = n := by
  rw [UInt8.toNat_ofNat', Nat.mod_eq_of_lt h]

/-- What is read was written so: there is one text for some bytes. -/
theorem encode_of_decode? {cs : List Char} {bytes : List UInt8}
    (h : decode? a cs = some bytes) : encode a bytes = cs := by
  fun_induction decode? a cs generalizing bytes with
  | case1 =>
    cases h
    rfl
  | case2 => cases h
  | case3 c d =>
    simp only [Option.bind_eq_bind, Option.bind_eq_some_iff] at h
    obtain ⟨p, hp, q, hq, h⟩ := h
    obtain ⟨hp, rfl⟩ := Alphabet.digit_of_value? hp
    obtain ⟨hq, rfl⟩ := Alphabet.digit_of_value? hq
    split at h
    · cases h
      have hx : (p * 4 + q / 16) / 4 = p ∧ (p * 4 + q / 16) % 4 * 16 = q := by omega
      rw [encode, toNat_ofNat, hx.1, hx.2]
      omega
    · cases h
  | case4 c d e =>
    simp only [Option.bind_eq_bind, Option.bind_eq_some_iff] at h
    obtain ⟨p, hp, q, hq, r, hr, h⟩ := h
    obtain ⟨hp, rfl⟩ := Alphabet.digit_of_value? hp
    obtain ⟨hq, rfl⟩ := Alphabet.digit_of_value? hq
    obtain ⟨hr, rfl⟩ := Alphabet.digit_of_value? hr
    split at h
    · cases h
      have hx : (p * 4 + q / 16) / 4 = p ∧
          (p * 4 + q / 16) % 4 * 16 + (q % 16 * 16 + r / 4) / 16 = q ∧
          (q % 16 * 16 + r / 4) % 16 * 4 = r := by omega
      rw [encode, toNat_ofNat, toNat_ofNat, hx.1, hx.2.1, hx.2.2]
      all_goals omega
    · cases h
  | case5 c d e f rest ih =>
    simp only [Option.bind_eq_bind, Option.bind_eq_some_iff] at h
    obtain ⟨p, hp, q, hq, r, hr, s, hs, tail, ht, h⟩ := h
    obtain ⟨hp, rfl⟩ := Alphabet.digit_of_value? hp
    obtain ⟨hq, rfl⟩ := Alphabet.digit_of_value? hq
    obtain ⟨hr, rfl⟩ := Alphabet.digit_of_value? hr
    obtain ⟨hs, rfl⟩ := Alphabet.digit_of_value? hs
    cases h
    have hx : (p * 4 + q / 16) / 4 = p ∧
        (p * 4 + q / 16) % 4 * 16 + (q % 16 * 16 + r / 4) / 16 = q ∧
        (q % 16 * 16 + r / 4) % 16 * 4 + (r % 4 * 64 + s) / 64 = r ∧
        (r % 4 * 64 + s) % 64 = s := by omega
    rw [encode, toNat_ofNat, toNat_ofNat, toNat_ofNat, hx.1, hx.2.1, hx.2.2.1, hx.2.2.2, ih ht]
    all_goals omega

end GroupAccess.Base64
