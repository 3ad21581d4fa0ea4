import GroupAccess.Proofs.Float.Product
import GroupAccess.Proofs.Password.Runs

namespace GroupAccess

/-- A logarithm to the base two of the floats from two on. -/
structure Logarithm (log2 : Float → Float) : Prop where
  two : log2 2 = 1
  mono : ∀ {x y : Float}, 2 ≤ x → x ≤ y → log2 x ≤ log2 y

namespace Password

/-- The entropy by another logarithm. -/
def entropyBy (log2 : Float → Float) (password : Password) : Float :=
  let chars := password.text.toList
  if pool chars = 0 then 0.0 else log2 (pool chars).toFloat * (effectiveLength chars).toFloat

/-- The check of the entropy by another logarithm. -/
def checkStrengthBy (log2 : Float → Float) (password : Password) (required : Float) :
    Except PasswordError Float :=
  let bits := password.entropyBy log2
  if bits < required then .error (.tooWeak bits required) else .ok bits

theorem checkStrengthBy_eq_ok {log2 : Float → Float} {password : Password} {required bits : Float} :
    password.checkStrengthBy log2 required = .ok bits ↔
      ¬ password.entropyBy log2 < required ∧ password.entropyBy log2 = bits := by
  unfold checkStrengthBy
  dsimp only
  split
  · rename_i hweak
    simp [hweak]
  · rename_i hstrong
    simp [hstrong]

variable {log2 : Float → Float}

theorem entropyBy_of_empty {password : Password} (h : password.text.toList = []) :
    password.entropyBy log2 = 0.0 := by
  unfold entropyBy
  dsimp only
  rw [h]
  exact if_pos rfl

theorem entropyBy_of_ne {password : Password} (h : password.text.toList ≠ []) :
    password.entropyBy log2 =
      log2 (pool password.text.toList).toFloat * (effectiveLength password.text.toList).toFloat :=
  if_neg fun hzero => h (pool_eq_zero.1 hzero)

variable {fewer more : Password}

theorem one_le_log2 (hlog : Logarithm log2) {n : Nat} (h : 2 ≤ n) : 1 ≤ log2 n.toFloat := by
  have hmono := hlog.mono (Binary64.toFloat_mono (by decide) (le_refl 2))
    (Binary64.toFloat_mono (by decide) h)
  rwa [show log2 (2 : Nat).toFloat = 1 from hlog.two] at hmono

theorem one_le_entropyBy (hlog : Logarithm log2) (h : more.text.toList ≠ []) :
    1 ≤ more.entropyBy log2 := by
  have hpool := ten_le_pool h
  rw [entropyBy_of_ne h]
  exact Binary64.one_le_mul (one_le_log2 hlog (by omega))
    (Binary64.toFloat_mono (le_refl 1) (effectiveLength_pos h))

theorem entropyBy_mono (hlog : Logarithm log2) (hne : fewer.text.toList ≠ [])
    (h : fewer.text.toList.Sublist more.text.toList) :
    fewer.entropyBy log2 ≤ more.entropyBy log2 := by
  have hne' : more.text.toList ≠ [] := fun hnil => hne (List.sublist_nil.1 (hnil ▸ h))
  have hten := ten_le_pool hne
  have hpos := effectiveLength_pos hne
  have hpool := pool_mono h
  have hlength := effectiveLength_mono h
  rw [entropyBy_of_ne hne, entropyBy_of_ne hne']
  refine Binary64.mul_mono (one_le_log2 hlog (by omega)) (hlog.mono ?_ ?_) ?_ ?_
  · exact @Binary64.toFloat_mono 2 _ (by decide) (by omega)
  · exact Binary64.toFloat_mono (by omega) hpool
  · exact Binary64.toFloat_mono (le_refl 1) hpos
  · exact Binary64.toFloat_mono hpos hlength

/-- With more characters a password is as strong, and no bound is above it that was not before. -/
theorem entropyBy_of_sublist (hlog : Logarithm log2)
    (h : fewer.text.toList.Sublist more.text.toList) :
    fewer.entropyBy log2 ≤ more.entropyBy log2 ∧
      ∀ required, more.entropyBy log2 < required → fewer.entropyBy log2 < required := by
  by_cases hne : fewer.text.toList = []
  · rw [entropyBy_of_empty hne]
    by_cases hne' : more.text.toList = []
    · rw [entropyBy_of_empty hne']
      exact ⟨by decide +kernel, fun _ hr => hr⟩
    · have hone := one_le_entropyBy hlog hne'
      exact ⟨Binary64.zero_le hone, fun _ => Binary64.zero_lt_of_lt hone⟩
  · have hle := entropyBy_mono hlog hne h
    exact ⟨hle, fun _ => Binary64.lt_of_le_of_lt (one_le_entropyBy hlog hne) hle⟩

/-- Strength goes by the classes and the runs of a password, and grows with its characters: whatever
the bound, characters that are inserted into an accepted password leave it accepted. -/
theorem strength_monotone :
    (∀ text : List Char,
      effectiveLength text = ((runs text).map fun run => min run.length 2).sum ∧
        pool text = ∑ k ∈ (text.map CharClass.of).toFinset, k.size ∧
          (pool text = 0 ↔ text = [])) ∧
    (∀ fewer more : List Char, fewer.Sublist more →
      pool fewer ≤ pool more ∧ effectiveLength fewer ≤ effectiveLength more) ∧
    (∀ password : Password, password.checkStrength = password.checkStrengthBy Float.log2) ∧
    ∀ log2, Logarithm log2 → ∀ fewer more : Password,
      fewer.text.toList.Sublist more.text.toList → ∀ required bits,
        fewer.checkStrengthBy log2 required = .ok bits →
          ∃ bits', more.checkStrengthBy log2 required = .ok bits' ∧ bits ≤ bits' := by
  refine ⟨fun text => ⟨effectiveLength_eq_sum text, pool_eq_sum text, pool_eq_zero⟩,
    fun fewer more h => ⟨pool_mono h, effectiveLength_mono h⟩, fun _ => rfl, ?_⟩
  intro log2 hlog fewer more h required bits hok
  obtain ⟨hstrong, rfl⟩ := checkStrengthBy_eq_ok.1 hok
  obtain ⟨hle, hbound⟩ := entropyBy_of_sublist hlog h
  exact ⟨_, checkStrengthBy_eq_ok.2 ⟨fun hweak => hstrong (hbound required hweak), rfl⟩, hle⟩

namespace Sample

/-- Rises like the logarithm, with its values at 32 and at 64. -/
def stepLog2 (x : Float) : Float := if x < 32 then 1 else if x < 64 then 5 else 6

theorem stepLog2_logarithm : Logarithm stepLog2 := by
  refine ⟨by decide +kernel, fun {x y} hx hxy => ?_⟩
  have hone : 1 ≤ x := Binary64.one_le_of_le (by decide +kernel) hx
  have hback {r : Float} (hr : ¬ x < r) : ¬ y < r :=
    fun hy => hr (Binary64.lt_of_le_of_lt hone hxy hy)
  unfold stepLog2
  by_cases h : x < 32
  · rw [if_pos h]
    split_ifs <;> decide +kernel
  · rw [if_neg h, if_neg (hback h)]
    by_cases h' : x < 64
    · rw [if_pos h']
      split_ifs <;> decide +kernel
    · rw [if_neg h', if_neg (hback h')]
      decide +kernel

end Sample

/-- A character inside a run splits it: four characters count instead of two, of two classes. -/
theorem strength_monotone_sample :
    ∃ bits, (Password.mk "!!é!").checkStrengthBy Sample.stepLog2 10 = .ok bits ∧ 10 ≤ bits :=
  strength_monotone.2.2.2 Sample.stepLog2 Sample.stepLog2_logarithm ⟨"!!!"⟩ ⟨"!!é!"⟩ (by decide) 10
    10 (checkStrengthBy_eq_ok.2 (by decide +kernel))

end Password

end GroupAccess
