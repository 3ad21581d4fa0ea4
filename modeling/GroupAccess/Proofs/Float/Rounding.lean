import Mathlib

namespace GroupAccess.Binary64

open Float.Model Float.Model.UnpackedFloat

/-- The whole number that is nearest to `x`, and the even one of two. -/
structure Nearest (x : ℚ) (r : Nat) : Prop where
  below : 2 * x ≤ 2 * r + 1
  above : 2 * r ≤ 2 * x + 1
  even : 2 * x = 2 * r + 1 ∨ 2 * r = 2 * x + 1 → r % 2 = 0

namespace Nearest

variable {x y : ℚ} {r s : Nat}

theorem whole (r : Nat) : Nearest r r := by
  refine ⟨by linarith, by linarith, ?_⟩
  rintro (h | h)
  · linarith
  · linarith

theorem mono (hx : Nearest x r) (hy : Nearest y s) (h : x ≤ y) : r ≤ s := by
  by_contra hlt
  have hs : (s : ℚ) + 1 ≤ r := by
    have hnat : s + 1 ≤ r := by omega
    exact_mod_cast hnat
  -- Both are halfway between the two whole numbers, and then both of these would be even.
  have hbelow := hy.below
  have habove := hx.above
  have hr := hx.even (.inr (by linarith))
  have hs' := hy.even (.inl (by linarith))
  have hsucc : (r : ℚ) = s + 1 := by linarith
  have hnat : r = s + 1 := by exact_mod_cast hsucc
  omega

end Nearest

/-- What a mantissa and the two bits after it say of a value, between two whole numbers. -/
structure Represents (em : ExtendedMantissa) (x : ℚ) : Prop where
  least : (em.mantissa : ℚ) ≤ x
  less : x < em.mantissa + 1
  half : em.roundBit = true ↔ 2 * (em.mantissa : ℚ) + 1 ≤ 2 * x
  exact : em.stickyBit = false ↔ x = em.mantissa ∨ 2 * x = 2 * em.mantissa + 1

namespace Represents

variable {em : ExtendedMantissa} {x : ℚ}

theorem ofMantissa (m : Nat) : Represents (.ofMantissaAndAccuracy m .exact) m := by
  refine ⟨le_refl _, by simp [ExtendedMantissa.ofMantissaAndAccuracy], ?_, ?_⟩
  · simp [ExtendedMantissa.ofMantissaAndAccuracy]
  · simp [ExtendedMantissa.ofMantissaAndAccuracy]

theorem shiftRightOne (h : Represents em x) : Represents em.shiftRightOne (x / 2) := by
  obtain ⟨m, roundBit, stickyBit⟩ := em
  obtain ⟨hleast, hless, hhalf, hexact⟩ := h
  dsimp only at hleast hless hhalf hexact
  have hm : ((m % 2 : Nat) : ℚ) + 2 * ((m / 2 : Nat) : ℚ) = m := by
    exact_mod_cast Nat.mod_add_div m 2
  have hrest : (roundBit || stickyBit) = false ↔ x = m := by
    rw [Bool.or_eq_false_iff, hexact, ← Bool.not_eq_true, hhalf]
    constructor
    · rintro ⟨hnot, heq | heq⟩
      · exact heq
      · exact absurd heq.ge hnot
    · intro heq
      exact ⟨by linarith, .inl heq⟩
  -- The bit that is shifted out is the new round bit.
  rcases Nat.mod_two_eq_zero_or_one m with hbit | hbit
  · rw [hbit, Nat.cast_zero, zero_add] at hm
    refine ⟨?_, ?_, ?_, hrest.trans ?_⟩
    all_goals simp only [ExtendedMantissa.shiftRightOne, hbit]
    · linarith
    · linarith
    · exact ⟨fun hb => absurd hb (by simp), fun hge => by linarith⟩
    · constructor
      · exact fun heq => .inl (by linarith)
      · rintro (heq | heq)
        · linarith
        · linarith
  · rw [hbit, Nat.cast_one] at hm
    refine ⟨?_, ?_, ?_, hrest.trans ?_⟩
    all_goals simp only [ExtendedMantissa.shiftRightOne, hbit]
    · linarith
    · linarith
    · exact ⟨fun _ => by linarith, fun _ => rfl⟩
    · constructor
      · exact fun heq => .inr (by linarith)
      · rintro (heq | heq)
        · linarith
        · linarith

theorem shiftRight (h : Represents em x) (k : Nat) : Represents (em >>> k) (x / 2 ^ k) := by
  change Represents (k.repeat ExtendedMantissa.shiftRightOne em) (x / 2 ^ k)
  induction k with
  | zero => simpa [Nat.repeat] using h
  | succ k ih =>
    have hone := ih.shiftRightOne
    rwa [div_div, ← pow_succ] at hone

theorem nearest (h : Represents em x) : Nearest x em.roundedMantissa := by
  obtain ⟨m, roundBit, stickyBit⟩ := em
  obtain ⟨hleast, hless, hhalf, hexact⟩ := h
  dsimp only at hleast hless hhalf hexact
  cases roundBit with
  | false =>
    have hbelow : 2 * x < 2 * (m : ℚ) + 1 := by
      by_contra hge
      exact absurd (hhalf.2 (not_lt.1 hge)) (by simp)
    have hr : (ExtendedMantissa.mk m false stickyBit).roundedMantissa = m := by
      cases stickyBit <;> rfl
    rw [hr]
    refine ⟨hbelow.le, by linarith, ?_⟩
    rintro (heq | heq)
    · linarith
    · linarith
  | true =>
    have habove := hhalf.1 rfl
    cases stickyBit with
    | false =>
      -- Halfway: the even one of the two is taken.
      have heq : 2 * x = 2 * m + 1 := by
        rcases hexact.1 rfl with heq | heq
        · linarith
        · exact heq
      change Nearest x (m + m % 2)
      rcases Nat.mod_two_eq_zero_or_one m with hbit | hbit
      · rw [hbit, Nat.add_zero]
        exact ⟨heq.le, by linarith, fun _ => hbit⟩
      · rw [hbit]
        refine ⟨?_, ?_, fun _ => by omega⟩
        · push_cast
          linarith
        · push_cast
          linarith
    | true =>
      have hne : 2 * x ≠ 2 * m + 1 := fun heq => by simpa using hexact.2 (.inr heq)
      have hlt : 2 * (m : ℚ) + 1 < 2 * x := lt_of_le_of_ne habove (Ne.symm hne)
      change Nearest x (m + 1)
      refine ⟨?_, ?_, ?_⟩
      · push_cast
        linarith
      · push_cast
        linarith
      · push_cast
        rintro (heq | heq)
        · linarith
        · linarith

end Represents

/-- A value from `2 ^ (t + 52)` on is rounded to `r` units of `2 ^ t`. -/
structure Rounds (q : ℚ) (t : Int) (r : Nat) : Prop where
  least : (2 : ℚ) ^ (t + 52) ≤ q
  less : q < 2 ^ (t + 53)
  nearest : Nearest (q / 2 ^ t) r

namespace Rounds

variable {q p : ℚ} {t u : Int} {r s : Nat}

theorem two_pow_le (h : Rounds q t r) : 2 ^ 52 ≤ r := by
  refine (Nearest.whole (2 ^ 52)).mono h.nearest ?_
  have hleast := h.least
  rw [zpow_add₀ two_ne_zero, mul_comm] at hleast
  rw [le_div_iff₀ (by positivity)]
  exact_mod_cast hleast

theorem le_two_pow (h : Rounds q t r) : r ≤ 2 ^ 53 := by
  refine h.nearest.mono (Nearest.whole (2 ^ 53)) ?_
  have hless := h.less
  rw [zpow_add₀ two_ne_zero, mul_comm] at hless
  rw [div_le_iff₀ (by positivity)]
  exact_mod_cast hless.le

/-- The floats are counted by `r + t * 2 ^ 52`, which also goes on where `t` changes. -/
theorem mono (hq : Rounds q t r) (hp : Rounds p u s) (h : q ≤ p) :
    (r : Int) + t * 2 ^ 52 ≤ s + u * 2 ^ 52 := by
  have htu : t + 52 < u + 53 := by
    have hpow : (2 : ℚ) ^ (t + 52) < 2 ^ (u + 53) := hq.least.trans_lt (h.trans_lt hp.less)
    exact (zpow_lt_zpow_iff_right₀ one_lt_two).1 hpow
  rcases (show t ≤ u by omega).lt_or_eq with hlt | rfl
  · have hr := hq.le_two_pow
    have hs := hp.two_pow_le
    omega
  · have hrs : r ≤ s := by
      refine hq.nearest.mono hp.nearest ?_
      exact div_le_div_of_nonneg_right h (by positivity)
    omega

end Rounds

/-- The mantissa and the exponent of a float of at least one, however large. -/
structure Normal (m : Nat) (e : Int) : Prop where
  least : 2 ^ 52 ≤ m
  less : m < 2 ^ 53
  exponent : -52 ≤ e

namespace Normal

variable {m n : Nat} {e f : Int}

theorem log2_eq (h : Normal m e) : m.log2 = 52 :=
  (Nat.log2_eq_iff (by have := h.least; omega)).2 ⟨h.least, h.less⟩

/-- Its value is not rounded. -/
theorem rounds (h : Normal m e) : Rounds (m * 2 ^ e) e m := by
  have hpos : (0 : ℚ) < 2 ^ e := by positivity
  have hleast : (2 : ℚ) ^ 52 ≤ m := by exact_mod_cast h.least
  have hless : (m : ℚ) < 2 ^ 53 := by exact_mod_cast h.less
  refine ⟨?_, ?_, ?_⟩
  · rw [zpow_add₀ two_ne_zero, mul_comm]
    exact mul_le_mul_of_nonneg_right hleast hpos.le
  · rw [zpow_add₀ two_ne_zero, mul_comm _ ((2 : ℚ) ^ (53 : Int))]
    exact mul_lt_mul_of_pos_right hless hpos
  · rw [mul_div_cancel_right₀ _ hpos.ne']
    exact Nearest.whole m

theorem eq_of_place (hm : Normal m e) (hn : Normal n f)
    (h : (m : Int) + e * 2 ^ 52 = n + f * 2 ^ 52) : m = n ∧ e = f := by
  have hleast := hm.least
  have hless := hm.less
  have hleast' := hn.least
  have hless' := hn.less
  omega

/-- Values come in the order of places. -/
theorem value_mono (hm : Normal m e) (hn : Normal n f)
    (h : (m : Int) + e * 2 ^ 52 ≤ n + f * 2 ^ 52) : (m : ℚ) * 2 ^ e ≤ n * 2 ^ f := by
  by_contra hlt
  have hle := hn.rounds.mono hm.rounds (not_le.1 hlt).le
  obtain ⟨rfl, rfl⟩ := hm.eq_of_place hn (le_antisymm h hle)
  exact hlt (le_refl _)

end Normal

/-- A mantissa with `k` bits too many is shifted by as many. -/
theorem shiftToTargetExponent_eq {m k : Nat} {e : Int} (hk : m.log2 = 52 + k)
    (he : -52 ≤ e + k) : shiftToTargetExponent Format.binary64 m e .exact =
      (ExtendedMantissa.ofMantissaAndAccuracy m .exact >>> k, e + k) := by
  have ht : Format.binary64.targetExponent (totalExponent m e) = e + k := by
    simp only [Format.targetExponent, totalExponent, Format.mantissaBits, Format.minExponent, hk]
    push_cast
    omega
  have hshift : (e + k - e).toNat = k := by omega
  unfold shiftToTargetExponent shiftToExponent
  dsimp only
  rw [ht, hshift]

theorem rounds_shiftRight {m k : Nat} (e : Int) (hk : m.log2 = 52 + k) :
    Rounds (m * 2 ^ e) (e + k)
      (ExtendedMantissa.ofMantissaAndAccuracy m .exact >>> k).roundedMantissa := by
  have hm : m ≠ 0 := by
    rintro rfl
    rw [Nat.log2_zero] at hk
    omega
  have hleast : (2 : ℚ) ^ (52 + k) ≤ m := by exact_mod_cast hk ▸ Nat.log2_self_le hm
  have hless : (m : ℚ) < 2 ^ (53 + k) := by
    have hlog := Nat.lt_log2_self (n := m)
    rw [hk, show 52 + k + 1 = 53 + k by omega] at hlog
    exact_mod_cast hlog
  have hsplit (b : Nat) : (2 : ℚ) ^ (e + k + b) = 2 ^ (b + k) * 2 ^ e := by
    rw [← zpow_natCast, ← zpow_add₀ two_ne_zero]
    congr 1
    push_cast
    ring
  have hquotient : (m : ℚ) * 2 ^ e / 2 ^ (e + k) = m / 2 ^ k := by
    rw [zpow_add₀ two_ne_zero, zpow_natCast, mul_comm, mul_div_mul_left _ _ (by positivity)]
  refine ⟨?_, ?_, ?_⟩
  · exact (hsplit 52).trans_le (mul_le_mul_of_nonneg_right hleast (by positivity))
  · exact (mul_lt_mul_of_pos_right hless (by positivity)).trans_eq (hsplit 53).symm
  · rw [hquotient]
    exact ((Represents.ofMantissa m).shiftRight k).nearest

/-- Rounding up may leave one bit too many, and then the mantissa is a power of two. -/
theorem Rounds.carried {q : ℚ} {t : Int} {r : Nat} (h : Rounds q t r) (ht : -52 ≤ t) :
    ∃ n f, Normal n f ∧ (n : Int) + f * 2 ^ 52 = r + t * 2 ^ 52 ∧
      shiftToTargetExponent Format.binary64 r t .exact = (⟨n, false, false⟩, f) := by
  rcases h.le_two_pow.lt_or_eq with hless | rfl
  · have hnormal : Normal r t := ⟨h.two_pow_le, hless, ht⟩
    refine ⟨r, t, hnormal, rfl, ?_⟩
    rw [@shiftToTargetExponent_eq r 0 t hnormal.log2_eq (by omega), Nat.cast_zero, add_zero]
    rfl
  · refine ⟨2 ^ 52, t + 1, ⟨by decide, by decide, by omega⟩, ?_, ?_⟩
    · push_cast
      ring
    · rw [@shiftToTargetExponent_eq (2 ^ 53) 1 t Nat.log2_two_pow (by omega)]
      rfl

/-- A value of at least one is rounded to a normal float. -/
theorem roundWithAccuracy_rounds {m k : Nat} {e : Int} (hk : m.log2 = 52 + k) (he : -52 ≤ e + k) :
    ∃ r n f h, Rounds (m * 2 ^ e) (e + k) r ∧ Normal n f ∧
      (n : Int) + f * 2 ^ 52 = r + (e + k) * 2 ^ 52 ∧
        roundWithAccuracy Format.binary64 .positive m e .exact = .finite .positive n f h := by
  have hrounds := rounds_shiftRight e hk
  obtain ⟨n, f, hnormal, hplace, hshift⟩ := hrounds.carried he
  have hpos : 0 < n := by
    have hleast := hnormal.least
    omega
  refine ⟨_, n, f, hpos, hrounds, hnormal, hplace, ?_⟩
  unfold roundWithAccuracy
  rw [shiftToTargetExponent_eq hk he]
  dsimp only
  rw [hshift]
  exact dif_neg hpos.ne'

end GroupAccess.Binary64
