import GroupAccess.Proofs.Float.Order

namespace GroupAccess.Binary64

open Float.Model Float.Model.UnpackedFloat

/-- The float is the one nearest to `q`, infinity standing for all that are too large. -/
def Approximates (x : Float) (q : ℚ) : Prop :=
  ∃ t r, Rounds q t r ∧ Large x.toModel.unpack (min (r + t * 2 ^ 52) (973 * 2 ^ 52))

namespace Approximates

variable {x y : Float} {q p : ℚ}

theorem mono (hx : Approximates x q) (hy : Approximates y p) (h : q ≤ p) : x ≤ y := by
  obtain ⟨t, r, hq, hx⟩ := hx
  obtain ⟨u, s, hp, hy⟩ := hy
  have hplace := hq.mono hp h
  exact le_iff.2 ((hx.le_iff hy).2 (by omega))

/-- A value with at least all bits of a mantissa is rounded, and then packed. -/
theorem of_round {m k : Nat} {e : Int} (hk : m.log2 = 52 + k) (he : -52 ≤ e + k) :
    Approximates ⟨Float.Model.pack (roundWithAccuracy Format.binary64 .positive m e .exact)⟩
      (m * 2 ^ e) := by
  obtain ⟨r, n, f, hpos, hrounds, hnormal, hplace, hround⟩ := roundWithAccuracy_rounds hk he
  refine ⟨_, r, hrounds, ?_⟩
  rw [hround, ← hplace]
  exact hnormal.large_pack

/-- A value that a float has is not rounded. -/
theorem unpack_eq {m : Nat} {e : Int} (hm : Normal m e) (he : e ≤ 971)
    (hx : Approximates x (m * 2 ^ e)) : ∃ h, x.toModel.unpack = .finite .positive m e h := by
  obtain ⟨t, r, hrounds, hlarge⟩ := hx
  have hle := hrounds.mono hm.rounds (le_refl _)
  have hge := hm.rounds.mono hrounds (le_refl _)
  have hless := hm.less
  have hplace : min ((r : Int) + t * 2 ^ 52) (973 * 2 ^ 52) = m + e * 2 ^ 52 := by omega
  rw [hplace] at hlarge
  rcases hlarge.cases with ⟨-, hk⟩ | ⟨n, f, hpos, hn, -, hk, hu⟩
  · omega
  · obtain ⟨rfl, rfl⟩ := hm.eq_of_place hn hk
    exact ⟨hpos, hu⟩

end Approximates

section

variable {x y : Float} {m n : Nat} {e f : Int} {hm : 0 < m} {hn : 0 < n}

theorem mul_approximates (hx : x.toModel.unpack = .finite .positive m e hm)
    (hy : y.toModel.unpack = .finite .positive n f hn) (hme : Normal m e) (hnf : Normal n f) :
    Approximates (x * y) (m * 2 ^ e * (n * 2 ^ f)) := by
  have hleast : 2 ^ 52 * 2 ^ 52 ≤ m * n := Nat.mul_le_mul hme.least hnf.least
  have hlog : 104 ≤ (m * n).log2 := (Nat.le_log2 (by omega)).2 (by omega)
  obtain ⟨k, hk⟩ := Nat.exists_eq_add_of_le (show 52 ≤ (m * n).log2 by omega)
  have he := hme.exponent
  have hf := hnf.exponent
  have hround := Approximates.of_round hk (e := e + f) (by omega)
  have hvalue : (m : ℚ) * 2 ^ e * (n * 2 ^ f) = ((m * n : Nat) : ℚ) * 2 ^ (e + f) := by
    rw [zpow_add₀ two_ne_zero]
    push_cast
    ring
  have hmul : x * y =
      ⟨Float.Model.pack (roundWithAccuracy Format.binary64 .positive (m * n) (e + f) .exact)⟩ := by
    change Float.ofModel (Float.Model.pack (UnpackedFloat.mul Format.binary64 _ _)) = _
    rw [hx, hy]
    rfl
  rw [hvalue, hmul]
  exact hround

end

theorem mul_infinity {x y : Float} {k : Int} (hx : x.toModel.unpack = .infinity .positive)
    (hy : Large y.toModel.unpack k) :
    (x * y).toModel.unpack = .infinity .positive ∧ (y * x).toModel.unpack = .infinity .positive := by
  change (Float.Model.pack (UnpackedFloat.mul Format.binary64 _ _)).unpack = _ ∧
    (Float.Model.pack (UnpackedFloat.mul Format.binary64 _ _)).unpack = _
  rw [hx]
  generalize y.toModel.unpack = v at hy ⊢
  cases hy with
  | finite hn he =>
    simp only [UnpackedFloat.mul]
    exact ⟨rfl, rfl⟩
  | infinity => exact ⟨rfl, rfl⟩

/-- The exponent of a short mantissa is decreased until the mantissa has all its bits. -/
theorem round_eq {n s : Nat} (hs : n.log2 + s = 52) :
    UnpackedFloat.round Format.binary64 .positive n 0 =
      roundWithAccuracy Format.binary64 .positive (n * 2 ^ s) (-s) .exact := by
  have ht : Format.binary64.targetExponent (totalExponent n 0) = -s := by
    simp only [Format.targetExponent, totalExponent, Format.mantissaBits, Format.minExponent]
    push_cast
    omega
  have hshift : (0 - -(s : Int)).toNat = s := by omega
  unfold UnpackedFloat.round decreaseExponent
  dsimp only
  rw [ht, hshift, Nat.shiftLeft_eq, zero_sub]

/-- From `2 ^ 53` on a whole number has all bits of a mantissa. -/
theorem ofScientific_large {n : Nat} (h : 2 ^ 53 ≤ n) : Float.ofScientific n false 0 =
    ⟨Float.Model.pack (roundWithAccuracy Format.binary64 .positive (n * 2 ^ 53) (-53) .exact)⟩ := by
  have hn : n ≠ 0 := by omega
  have hmodel : UnpackedFloat.ofScientific Format.binary64 n 0 =
      roundWithAccuracy Format.binary64 .positive (n <<< 53 * 1) (-53 + 0) .exact := by
    unfold UnpackedFloat.ofScientific
    rw [dif_neg hn, if_neg (by decide), if_neg, if_pos (le_refl 0)]
    · rfl
    · simp only
      omega
  unfold Float.ofScientific
  rw [dif_neg (by omega)]
  change Float.ofModel (Float.Model.pack (UnpackedFloat.ofScientific Format.binary64 n 0)) = _
  rw [hmodel, Nat.shiftLeft_eq, Nat.mul_one, add_zero]

/-- A shorter one is converted as it is and multiplied with one. -/
theorem ofScientific_small {n s : Nat} (hn : n ≠ 0) (hs : n.log2 + s = 52) :
    Float.ofScientific n false 0 =
      ⟨Float.Model.pack (roundWithAccuracy Format.binary64 .positive (n * 2 ^ s) (-s) .exact)⟩ *
        (1 : Float) := by
  have hless : n < 2 ^ 53 := (Nat.log2_lt hn).1 (by omega)
  have hint : UnpackedFloat.ofNat Format.binary64 n =
      UnpackedFloat.round Format.binary64 .positive n 0 := by
    have hpos : compare (n : Int) 0 = .gt := Int.compare_eq_gt.2 (by omega)
    unfold UnpackedFloat.ofNat UnpackedFloat.ofInt UnpackedFloat.normalize
    rw [hpos]
    rfl
  have hword : n.toUInt64.toNat = n := UInt64.toNat_ofNat_of_lt' (hless.trans (by decide))
  have hone : (1 : Float) = Float.ofBits 0x3FF0000000000000 := by decide +kernel
  unfold Float.ofScientific
  rw [dif_pos ⟨hless, by decide⟩]
  change n.toUInt64.toFloat * Float.ofBits 0x3FF0000000000000 = _
  rw [← hone, ← round_eq hs, ← hint]
  change Float.ofModel (Float.Model.pack (UnpackedFloat.ofNat Format.binary64 n.toUInt64.toNat)) *
    _ = _
  rw [hword]

theorem log2_mul_two_pow {n : Nat} (h : n ≠ 0) (s : Nat) : (n * 2 ^ s).log2 = n.log2 + s := by
  induction s with
  | zero => rw [pow_zero, Nat.mul_one, Nat.add_zero]
  | succ s ih =>
    have hne : n * 2 ^ s ≠ 0 := Nat.mul_ne_zero h (by positivity)
    rw [show n * 2 ^ (s + 1) = 2 * (n * 2 ^ s) by ring, Nat.log2_two_mul hne, ih, Nat.add_assoc]

/-- A whole number is not rounded below `2 ^ 53`, and otherwise once. -/
theorem toFloat_approximates {n : Nat} (h : 1 ≤ n) : Approximates n.toFloat n := by
  have hn : n ≠ 0 := by omega
  have hvalue (s : Nat) : ((n * 2 ^ s : Nat) : ℚ) * 2 ^ (-(s : Int)) = n := by
    push_cast
    rw [zpow_neg, zpow_natCast, mul_assoc, mul_inv_cancel₀ (by positivity), mul_one]
  change Approximates (Float.ofScientific n false 0) n
  by_cases hlog : n.log2 ≤ 52
  · obtain ⟨s, hs⟩ := Nat.exists_eq_add_of_le hlog
    have hlog' : (n * 2 ^ s).log2 = 52 + 0 := by rw [log2_mul_two_pow hn, ← hs]
    have hround := @Approximates.of_round _ 0 (-s) hlog' (by omega)
    have hbounds := (Nat.log2_eq_iff (show n * 2 ^ s ≠ 0 by positivity)).1 hlog'
    have hnormal : Normal (n * 2 ^ s) (-s) := ⟨hbounds.1, hbounds.2, by omega⟩
    obtain ⟨hpos, hunpack⟩ := hround.unpack_eq hnormal (by omega)
    have hmul := mul_approximates hunpack unpack_one hnormal ⟨by decide, by decide, by decide⟩
    have hone : ((2 ^ 52 : Nat) : ℚ) * 2 ^ (-52 : Int) = 1 := by norm_num
    rw [hvalue, hone, mul_one] at hmul
    rw [ofScientific_small hn hs.symm]
    exact hmul
  · have hlog' : (n * 2 ^ 53).log2 = 52 + (n.log2 + 1) := by
      rw [log2_mul_two_pow hn]
      omega
    have hround := @Approximates.of_round _ _ (-53) hlog' (by omega)
    rw [ofScientific_large ((Nat.le_log2 hn).1 (by omega)), ← hvalue 53]
    exact hround

theorem toFloat_mono {m n : Nat} (hm : 1 ≤ m) (h : m ≤ n) : m.toFloat ≤ n.toFloat :=
  (toFloat_approximates hm).mono (toFloat_approximates (hm.trans h)) (by exact_mod_cast h)

section

variable {x y z w : Float}

theorem one_le_mul (hx : 1 ≤ x) (hy : 1 ≤ y) : 1 ≤ x * y := by
  obtain ⟨k, hx⟩ := one_le_iff.1 hx
  obtain ⟨l, hy⟩ := one_le_iff.1 hy
  rw [one_le_iff]
  rcases hx.cases with ⟨hu, -⟩ | ⟨m, e, hm, hme, -, -, hu⟩
  · rw [(mul_infinity hu hy).1]
    exact ⟨_, .infinity⟩
  · rcases hy.cases with ⟨hv, -⟩ | ⟨n, f, hn, hnf, -, -, hv⟩
    · rw [(mul_infinity hv hx).2]
      exact ⟨_, .infinity⟩
    · obtain ⟨t, s, -, hlarge⟩ := mul_approximates hu hv hme hnf
      exact ⟨_, hlarge⟩

/-- A product of floats of at least one grows with both. -/
theorem mul_mono (hx : 1 ≤ x) (hxz : x ≤ z) (hy : 1 ≤ y) (hyw : y ≤ w) : x * y ≤ z * w := by
  obtain ⟨j, hxy⟩ := one_le_iff.1 (one_le_mul hx hy)
  obtain ⟨k, hx⟩ := one_le_iff.1 hx
  obtain ⟨l, hy⟩ := one_le_iff.1 hy
  obtain ⟨k', hz⟩ := hx.of_le (le_iff.1 hxz)
  obtain ⟨l', hw⟩ := hy.of_le (le_iff.1 hyw)
  have hk := (hx.le_iff hz).1 (le_iff.1 hxz)
  have hl := (hy.le_iff hw).1 (le_iff.1 hyw)
  have hinfinite (h : (z * w).toModel.unpack = .infinity .positive) : x * y ≤ z * w := by
    rw [le_iff, h]
    exact (hxy.le_iff .infinity).2 hxy.le_last
  rcases hz.cases with ⟨hu, -⟩ | ⟨m', e', hm', hme', he', rfl, hu'⟩
  · exact hinfinite (mul_infinity hu hw).1
  rcases hw.cases with ⟨hv, -⟩ | ⟨n', f', hn', hnf', hf', rfl, hv'⟩
  · exact hinfinite (mul_infinity hv hz).2
  have hless := hme'.less
  have hless' := hnf'.less
  rcases hx.cases with ⟨-, rfl⟩ | ⟨m, e, hm, hme, -, rfl, hu⟩
  · omega
  rcases hy.cases with ⟨-, rfl⟩ | ⟨n, f, hn, hnf, -, rfl, hv⟩
  · omega
  refine (mul_approximates hu hv hme hnf).mono (mul_approximates hu' hv' hme' hnf') ?_
  exact mul_le_mul (hme.value_mono hme' hk) (hnf.value_mono hnf' hl) (by positivity) (by positivity)

end

end GroupAccess.Binary64
