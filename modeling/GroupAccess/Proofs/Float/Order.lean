import GroupAccess.Proofs.Float.Rounding

namespace GroupAccess.Binary64

open Float.Model Float.Model.UnpackedFloat

section

variable {m n : Nat} {e f : Int} {hm : 0 < m} {hn : 0 < n}

theorem finite_lt : (UnpackedFloat.finite .positive m e hm).lt (.finite .positive n f hn) = true ↔
    e < f ∨ e = f ∧ m < n := by
  rw [← Int.compare_eq_lt, ← Int.compare_eq_eq, ← Nat.compare_eq_lt, ← Ordering.then_eq_lt]
  simp [UnpackedFloat.lt, UnpackedFloat.compare]

theorem finite_le : (UnpackedFloat.finite .positive m e hm).le (.finite .positive n f hn) = true ↔
    e < f ∨ e = f ∧ m ≤ n := by
  rw [← Int.compare_eq_lt, ← Int.compare_eq_eq, ← Nat.isLE_compare, ← Ordering.isLE_then_iff_or]
  rfl

end

theorem le_of_lt {u v : UnpackedFloat} (h : u.lt v = true) : u.le v = true := by
  have hcompare : u.compare v = some .lt := beq_iff_eq.1 h
  rw [UnpackedFloat.le, hcompare]
  rfl

/-- The floats of at least one, each with its place in their order. -/
inductive Large : UnpackedFloat → Int → Prop
  | finite {m : Nat} {e : Int} {h : 0 < m} (normal : Normal m e) (fits : e ≤ 971) :
      Large (.finite .positive m e h) (m + e * 2 ^ 52)
  | infinity : Large (.infinity .positive) (973 * 2 ^ 52)

namespace Large

variable {u v w : UnpackedFloat} {k l : Int}

theorem le_last (h : Large u k) : k ≤ 973 * 2 ^ 52 := by
  cases h with
  | finite normal fits =>
    have hless := normal.less
    omega
  | infinity => exact le_refl _

theorem first_le (h : Large u k) : 2 ^ 52 + -52 * 2 ^ 52 ≤ k := by
  cases h with
  | finite normal fits =>
    have hleast := normal.least
    have hexponent := normal.exponent
    omega
  | infinity => decide

theorem le_iff (hu : Large u k) (hv : Large v l) : u.le v = true ↔ k ≤ l := by
  cases hu with
  | finite hm he =>
    have hleast := hm.least
    have hless := hm.less
    cases hv with
    | finite hn hf =>
      have hleast' := hn.least
      have hless' := hn.less
      refine finite_le.trans ?_
      omega
    | infinity => exact iff_of_true rfl (by omega)
  | infinity =>
    cases hv with
    | finite hn hf =>
      have hless := hn.less
      exact iff_of_false (by simp [UnpackedFloat.le, UnpackedFloat.compare]) (by omega)
    | infinity => exact iff_of_true rfl (le_refl _)

/-- Only a positive float is above a large one. -/
theorem positive (hu : Large u k) (h : u.le v = true) :
    v = .infinity .positive ∨ ∃ n f hn, v = .finite .positive n f hn := by
  cases v with
  | infinity s =>
    cases s with
    | negative =>
      cases hu with
      | finite normal fits => simp [UnpackedFloat.le, UnpackedFloat.compare] at h
      | infinity => exact absurd h (by decide)
    | positive => exact .inl rfl
  | finite s n f hn =>
    cases s with
    | negative => cases hu <;> simp [UnpackedFloat.le, UnpackedFloat.compare] at h
    | positive => exact .inr ⟨n, f, hn, rfl⟩
  | _ => cases hu <;> simp [UnpackedFloat.le, UnpackedFloat.compare] at h

/-- The float `w` need not have a place. -/
theorem lt_of_le_of_lt (hu : Large u k) (hv : Large v l) (h : k ≤ l) (hw : v.lt w = true) :
    u.lt w = true := by
  cases hv with
  | infinity =>
    rcases Large.infinity.positive (le_of_lt hw) with rfl | ⟨n, f, hn, rfl⟩
    · exact absurd hw (by decide)
    · simp [UnpackedFloat.lt, UnpackedFloat.compare] at hw
  | finite hm he =>
    have hless := hm.less
    cases hu with
    | infinity => omega
    | finite hn hf =>
      have hleast := hn.least
      rcases (Large.finite hm he).positive (le_of_lt hw) with rfl | ⟨p, g, hp, rfl⟩
      · rfl
      · have hlex := finite_lt.1 hw
        exact finite_lt.2 (by omega)

/-- A float of at least one is infinite, or it is normal. -/
theorem cases (h : Large u k) :
    u = .infinity .positive ∧ k = 973 * 2 ^ 52 ∨
      ∃ m e hm, Normal m e ∧ e ≤ 971 ∧ k = m + e * 2 ^ 52 ∧ u = .finite .positive m e hm := by
  cases h with
  | finite normal fits => exact .inr ⟨_, _, _, normal, fits, rfl, rfl⟩
  | infinity => exact .inl ⟨rfl, rfl⟩

end Large

theorem le_iff {x y : Float} : x ≤ y ↔ x.toModel.unpack.le y.toModel.unpack = true :=
  decide_eq_true_iff

theorem lt_iff {x y : Float} : x < y ↔ x.toModel.unpack.lt y.toModel.unpack = true :=
  decide_eq_true_iff

theorem toNat_implicit (c : BitVec 52) : (1#1 ++ c).toNat = 2 ^ 52 + c.toNat := by
  rw [BitVec.toNat_append, ← Nat.shiftLeft_add_eq_or_of_lt c.isLt]
  rfl

/-- An exponent that is neither the least nor the last is that of a normal float. -/
theorem unpack_packComponents {b : Nat} (hpos : 0 < b) (hlast : b < 2047) (c : BitVec 52) :
    ∃ h, UnpackedFloat.unpack Format.binary64
      (packComponents Format.binary64 .positive (BitVec.ofNat 11 b) c) =
        .finite .positive (2 ^ 52 + c.toNat) (b - 1075) h := by
  have hb : (BitVec.ofNat 11 b).toNat = b := by
    rw [BitVec.toNat_ofNat, Nat.mod_eq_of_lt (by omega)]
  have hne {d : BitVec 11} (hd : d.toNat ≠ b) : BitVec.ofNat 11 b ≠ d := by
    rintro rfl
    exact hd hb
  have hzero : BitVec.ofNat 11 b ≠ 0#11 := hne hpos.ne
  have hones : BitVec.ofNat 11 b ≠ -1#11 := hne hlast.ne'
  refine ⟨by omega, ?_⟩
  unfold UnpackedFloat.unpack
  simp only [unpackExponent_packComponents, unpackMantissa_packComponents,
    unpackSign_packComponents, if_neg hones, if_neg hzero, toNat_implicit, hb]
  rfl

/-- A normal float is packed as it is, or as infinity where it does not fit. -/
theorem Normal.large_pack {n : Nat} {f : Int} {h : 0 < n} (hn : Normal n f) :
    Large (Float.Model.pack (.finite .positive n f h)).unpack
      (min (n + f * 2 ^ 52) (973 * 2 ^ 52)) := by
  have hleast := hn.least
  have hless := hn.less
  have hexponent := hn.exponent
  change Large (UnpackedFloat.unpack Format.binary64 (UnpackedFloat.pack Format.binary64 _)) _
  obtain ⟨b, hb⟩ : ∃ b : Nat, f + 1023 + 52 = b := Int.eq_ofNat_of_zero_le (by omega)
  have hpack : UnpackedFloat.pack Format.binary64 (.finite .positive n f h) =
      if 2047 ≤ b then packedInfinity Format.binary64 .positive
      else packComponents Format.binary64 .positive (BitVec.ofNat 11 b) (BitVec.ofNat 52 n) := by
    simp [UnpackedFloat.pack, Format.exponentBias, Format.mantissaBits, hn.log2_eq, hb]
  rw [hpack]
  by_cases hf : 2047 ≤ b
  · have hplace : min ((n : Int) + f * 2 ^ 52) (973 * 2 ^ 52) = 973 * 2 ^ 52 := by omega
    rw [if_pos hf, hplace]
    exact .infinity
  · obtain ⟨hpos, hunpack⟩ := @unpack_packComponents b (by omega) (by omega) (BitVec.ofNat 52 n)
    have hmod : 2 ^ 52 + (BitVec.ofNat 52 n).toNat = n := by
      rw [BitVec.toNat_ofNat]
      omega
    have hplace : min ((n : Int) + f * 2 ^ 52) (973 * 2 ^ 52) =
        (2 ^ 52 + (BitVec.ofNat 52 n).toNat : Nat) + ((b : Int) - 1075) * 2 ^ 52 := by
      rw [hmod]
      omega
    rw [if_neg hf, hunpack, hplace]
    exact .finite ⟨by omega, by omega, by omega⟩ (by omega)

theorem unpack_one : (1 : Float).toModel.unpack = .finite .positive (2 ^ 52) (-52) (by decide) := by
  rw [show (1 : Float) = Float.ofBits 0x3FF0000000000000 by decide +kernel]
  rfl

theorem unpack_zero : (0.0 : Float).toModel.unpack = .zero .positive := by
  rw [show (0.0 : Float) = Float.ofBits 0 by decide +kernel]
  rfl

/-- The exponent and the mantissa of a float have their bounds. -/
theorem unpack_bounded {b : BitVec 64} {s : Sign} {m : Nat} {e : Int} {h : 0 < m}
    (hb : UnpackedFloat.unpack Format.binary64 b = .finite s m e h) :
    m < 2 ^ 53 ∧ e ≤ 971 ∧ (2 ^ 52 ≤ m ∨ e = -1074) := by
  have hmantissa : (@unpackMantissa Format.binary64 b).toNat < 2 ^ 52 := BitVec.isLt _
  have hexponent : (@unpackExponent Format.binary64 b).toNat < 2 ^ 11 := BitVec.isLt _
  unfold UnpackedFloat.unpack at hb
  dsimp only at hb
  split at hb
  · split at hb <;> cases hb
  · rename_i hlast
    have hne : (@unpackExponent Format.binary64 b).toNat ≠ 2047 :=
      fun heq => hlast (BitVec.eq_of_toNat_eq heq)
    split at hb
    · rename_i hzero
      split at hb
      · cases hb
      · injection hb with _ hm he
        rw [hzero] at he
        subst hm
        exact ⟨by omega, by rw [← he]; decide, .inr (he ▸ by decide)⟩
    · injection hb with _ hm he
      have hbias : Format.binary64.exponentBias = 1023 := rfl
      rw [toNat_implicit] at hm
      omega

/-- What a large float is at most is large. -/
theorem Large.of_le {u : UnpackedFloat} {k : Int} (hu : Large u k) {y : Float}
    (h : u.le y.toModel.unpack = true) : ∃ l, Large y.toModel.unpack l := by
  rcases hu.positive h with hy | ⟨n, f, hn, hy⟩
  · rw [hy]
    exact ⟨_, .infinity⟩
  · rw [hy] at h ⊢
    cases hu with
    | finite hm he =>
      have hleast := hm.least
      have hexponent := hm.exponent
      have hle := finite_le.1 h
      obtain ⟨hless, hfits, hcanonical⟩ := unpack_bounded hy
      exact ⟨_, .finite ⟨by omega, hless, by omega⟩ hfits⟩
    | infinity => simp [UnpackedFloat.le, UnpackedFloat.compare] at h

theorem large_one : Large (1 : Float).toModel.unpack (2 ^ 52 + -52 * 2 ^ 52) := by
  rw [unpack_one]
  exact .finite ⟨by decide, by decide, by decide⟩ (by decide)

theorem one_le_iff {x : Float} : 1 ≤ x ↔ ∃ k, Large x.toModel.unpack k := by
  rw [le_iff]
  constructor
  · exact large_one.of_le
  · rintro ⟨k, hx⟩
    exact (large_one.le_iff hx).2 hx.first_le

section

variable {x y r : Float}

theorem one_le_of_le (hx : 1 ≤ x) (hxy : x ≤ y) : 1 ≤ y := by
  obtain ⟨k, hx⟩ := one_le_iff.1 hx
  exact one_le_iff.2 (hx.of_le (le_iff.1 hxy))

theorem lt_of_le_of_lt (hx : 1 ≤ x) (hxy : x ≤ y) (hyr : y < r) : x < r := by
  obtain ⟨k, hx⟩ := one_le_iff.1 hx
  obtain ⟨l, hy⟩ := hx.of_le (le_iff.1 hxy)
  have hkl := (hx.le_iff hy).1 (le_iff.1 hxy)
  exact lt_iff.2 (hx.lt_of_le_of_lt hy hkl (lt_iff.1 hyr))

theorem zero_le (hx : 1 ≤ x) : 0.0 ≤ x := by
  obtain ⟨k, hx⟩ := one_le_iff.1 hx
  rw [le_iff, unpack_zero]
  generalize x.toModel.unpack = u at hx ⊢
  cases hx with
  | finite normal fits => rfl
  | infinity => rfl

theorem zero_lt_of_lt (hx : 1 ≤ x) (hr : x < r) : 0.0 < r := by
  obtain ⟨k, hx⟩ := one_le_iff.1 hx
  rw [lt_iff, unpack_zero]
  rcases hx.positive (le_of_lt (lt_iff.1 hr)) with hr | ⟨n, f, hn, hr⟩
  · rw [hr]
    rfl
  · rw [hr]
    rfl

end

end GroupAccess.Binary64
