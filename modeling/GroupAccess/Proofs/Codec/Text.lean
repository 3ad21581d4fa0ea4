import GroupAccess.Text.Basic

namespace GroupAccess

theorem toList_loop (b : ByteArray) (i : Nat) (done : List UInt8) :
    ByteArray.toList.loop b i done = done.reverse ++ b.data.toList.drop i := by
  fun_induction ByteArray.toList.loop b i done with
  | case1 i done h ih =>
    have hd : b.data.toList.drop i = b.get! i :: b.data.toList.drop (i + 1) := by
      have hi : i < b.data.toList.length := h
      rw [List.drop_eq_getElem_cons hi]
      congr 1
      exact (getElem!_pos b.data i h).symm
    rw [ih, hd, List.reverse_cons, List.append_assoc]
    rfl
  | case2 i done h =>
    have hd : b.data.toList.drop i = [] := List.drop_eq_nil_of_le (Nat.not_lt.1 h)
    rw [hd, List.append_nil]

theorem utf8_eq (s : String) : utf8 s = s.toByteArray.data.toList := toList_loop _ 0 []

/-- The bytes of some characters, one character after the other. -/
def charBytes (cs : List Char) : List UInt8 := cs.flatMap String.utf8EncodeChar

@[simp] theorem charBytes_nil : charBytes [] = [] := rfl

@[simp] theorem charBytes_append (cs ds : List Char) :
    charBytes (cs ++ ds) = charBytes cs ++ charBytes ds :=
  List.flatMap_append

theorem charBytes_cons (c : Char) (cs : List Char) :
    charBytes (c :: cs) = String.utf8EncodeChar c ++ charBytes cs :=
  List.flatMap_cons

theorem utf8_ofList (cs : List Char) : utf8 (String.ofList cs) = charBytes cs := by
  rw [utf8_eq, String.toByteArray_ofList, List.utf8Encode, List.toList_data_toByteArray]
  rfl

theorem ofUtf8?_utf8 (s : String) : ofUtf8? (utf8 s) = some s := by
  have hb : ByteArray.mk (utf8 s).toArray = s.toByteArray := by
    rw [utf8_eq]
  rw [ofUtf8?, hb, String.fromUTF8?, dif_pos s.isValidUTF8]
  rfl

theorem ofUtf8?_charBytes (cs : List Char) : ofUtf8? (charBytes cs) = some (String.ofList cs) := by
  rw [← utf8_ofList, ofUtf8?_utf8]

theorem encodeChar_ascii {c : Char} (h : c.toNat < 128) :
    String.utf8EncodeChar c = [UInt8.ofNat c.toNat] :=
  if_pos (Nat.le_of_lt_succ h)

theorem charBytes_ascii {cs : List Char} (h : ∀ c ∈ cs, c.toNat < 128) :
    charBytes cs = cs.map fun c => UInt8.ofNat c.toNat := by
  induction cs with
  | nil => rfl
  | cons c cs ih =>
    rw [charBytes_cons, encodeChar_ascii (h c List.mem_cons_self),
      ih fun d hd => h d (List.mem_cons_of_mem c hd)]
    rfl

/-- A character beyond ASCII has no byte that is one of ASCII. -/
theorem le_of_mem_encodeChar {c : Char} (h : 128 ≤ c.toNat) {b : UInt8}
    (hb : b ∈ String.utf8EncodeChar c) : 128 ≤ b.toNat := by
  have high (n : Nat) (hl : 128 ≤ n) (hu : n < 256) : 128 ≤ (UInt8.ofNat n).toNat := by
    rw [UInt8.toNat_ofNat', Nat.mod_eq_of_lt hu]
    exact hl
  have hc : ¬c.val.toNat ≤ 127 := Nat.not_le.2 h
  simp only [String.utf8EncodeChar, if_neg hc] at hb
  split at hb
  · simp only [List.mem_cons, List.not_mem_nil, or_false] at hb
    rcases hb with rfl | rfl <;> exact high _ (by omega) (by omega)
  split at hb
  · simp only [List.mem_cons, List.not_mem_nil, or_false] at hb
    rcases hb with rfl | rfl | rfl <;> exact high _ (by omega) (by omega)
  · simp only [List.mem_cons, List.not_mem_nil, or_false] at hb
    rcases hb with rfl | rfl | rfl | rfl <;> exact high _ (by omega) (by omega)

end GroupAccess
