import GroupAccess.Password.Entropy
import Mathlib.Algebra.GroupWithZero.Nat
import Mathlib.Algebra.Order.BigOperators.Group.Finset
import Mathlib.Data.List.SplitBy

namespace GroupAccess.Password

/-- The runs of equal characters, each as long as it can be. -/
def runs (text : List Char) : List (List Char) := text.splitBy (· == ·)

/-- After a character, one that repeats it costs at most one. -/
theorem lengthAfter_le_of_repeated (first : Option Char) (c : Char) (text : List Char) :
    lengthAfter first (some c) text ≤ 1 + lengthAfter (some c) (some c) text := by
  cases text with
  | nil => simp [lengthAfter]
  | cons d rest =>
    by_cases hd : c = d
    · subst hd
      simp only [lengthAfter, and_self, if_true]
      split <;> omega
    · simp [lengthAfter, hd]

/-- A character that has just begun a run spares at most one of those after it. -/
theorem lengthAfter_le_of_begun (first second before : Option Char) {c : Char}
    (hc : before ≠ some c) (text : List Char) :
    lengthAfter first second text ≤ 1 + lengthAfter before (some c) text := by
  induction text generalizing first second before c with
  | nil => simp [lengthAfter]
  | cons d rest ih =>
    by_cases hd : c = d
    · subst hd
      have hrest := lengthAfter_le_of_repeated second c rest
      simp only [lengthAfter, hc, false_and, if_false]
      split <;> omega
    · have hne : some c ≠ some d := by simpa using hd
      have hrest := ih second (some d) (some c) hne
      simp only [lengthAfter, hne, and_false, if_false]
      split <;> omega

/-- One character more is never a shorter text. -/
theorem lengthAfter_le_cons (first second : Option Char) (c : Char) (text : List Char) :
    lengthAfter first second text ≤ lengthAfter first second (c :: text) := by
  by_cases hs : second = some c
  · by_cases hf : first = some c
    · simp [lengthAfter, hs, hf]
    · have hrest := lengthAfter_le_of_repeated first c text
      simpa [lengthAfter, hs, hf] using hrest
  · have hrest := lengthAfter_le_of_begun first second second hs text
    simpa [lengthAfter, hs] using hrest

theorem lengthAfter_mono {fewer more : List Char} (h : fewer.Sublist more)
    (first second : Option Char) :
    lengthAfter first second fewer ≤ lengthAfter first second more := by
  induction h generalizing first second with
  | slnil => exact Nat.le_refl _
  | @cons fewer more c _ ih =>
    exact (ih first second).trans (lengthAfter_le_cons first second c more)
  | cons_cons c _ ih =>
    have hrest := ih second (some c)
    simp only [lengthAfter]
    omega

/-- A run of at least one has at most two effective characters, whatever stands before it. -/
theorem lengthAfter_run (first : Option Char) {second : Option Char} {c : Char}
    (hc : second ≠ some c) (n : Nat) (rest : List Char) :
    ∃ before, lengthAfter first second (List.replicate (n + 1) c ++ rest) =
      min (n + 1) 2 + lengthAfter before (some c) rest := by
  have hfull (k : Nat) : lengthAfter (some c) (some c) (List.replicate k c ++ rest) =
      lengthAfter (some c) (some c) rest := by
    induction k with
    | zero => rfl
    | succ k ih => simpa [List.replicate_succ, lengthAfter] using ih
  cases n with
  | zero => exact ⟨second, by simp [lengthAfter, hc]⟩
  | succ n =>
    refine ⟨some c, ?_⟩
    rw [List.replicate_succ, List.replicate_succ]
    simp only [List.cons_append, lengthAfter, hc, false_and, and_false, if_false, hfull]
    omega

/-- A text is its first run, and what begins with another character. -/
theorem exists_run (c : Char) (text : List Char) :
    ∃ n rest, c :: text = List.replicate (n + 1) c ++ rest ∧ rest.length ≤ text.length ∧
      ∀ d ∈ rest.head?, c ≠ d := by
  refine ⟨(text.takeWhile (· == c)).length, text.dropWhile (· == c), ?_, ?_, ?_⟩
  · have hrun : text.takeWhile (· == c) = List.replicate (text.takeWhile (· == c)).length c := by
      refine List.eq_replicate_iff.2 ⟨rfl, fun d hd => ?_⟩
      have hall := List.all_takeWhile (p := (· == c)) (l := text)
      simpa using List.all_eq_true.1 hall d hd
    rw [List.replicate_succ, List.cons_append, ← hrun, List.takeWhile_append_dropWhile]
  · exact (List.dropWhile_sublist _).length_le
  · intro d hd hc
    have hstop := List.head?_dropWhile_not (· == c) text
    rw [Option.mem_def.1 hd] at hstop
    simp [hc] at hstop

theorem runs_replicate_append (c : Char) (n : Nat) {rest : List Char}
    (hc : ∀ d ∈ rest.head?, c ≠ d) :
    runs (List.replicate (n + 1) c ++ rest) = List.replicate (n + 1) c :: runs rest := by
  have hrun : (List.replicate (n + 1) c).splitBy (· == ·) = [List.replicate (n + 1) c] := by
    refine List.splitBy_of_isChain (by simp) ?_
    exact List.isChain_replicate_of_rel _ (by simp)
  rw [runs, runs, List.splitBy_append, hrun, List.singleton_append]
  intro x hx y hy
  rw [List.getLast?_replicate] at hx
  simp only [Nat.add_eq_zero_iff, one_ne_zero, and_false, if_false, Option.mem_some_iff] at hx
  subst hx
  simpa using hc y hy

/-- Run by run: `second` stands before the text and does not belong to its first run. -/
theorem lengthAfter_eq_sum (first second : Option Char) (text : List Char)
    (hs : ∀ c ∈ text.head?, second ≠ some c) :
    lengthAfter first second text =
      ((runs text).map fun run => min run.length 2).sum := by
  induction hn : text.length using Nat.strong_induction_on generalizing first second text with
  | _ length ih =>
  cases text with
  | nil => rfl
  | cons c text =>
    obtain ⟨n, rest, htext, hshort, hrest⟩ := exists_run c text
    obtain ⟨before, hrun⟩ := lengthAfter_run first (hs c rfl) n rest
    have hless : rest.length < length := by
      rw [List.length_cons] at hn
      omega
    have hrest' : ∀ d ∈ rest.head?, some c ≠ some d := fun d hd => by simpa using hrest d hd
    rw [htext, hrun, ih rest.length hless before (some c) rest hrest' rfl,
      runs_replicate_append c n hrest, List.map_cons, List.sum_cons, List.length_replicate]

theorem effectiveLength_eq_sum (text : List Char) :
    effectiveLength text = ((runs text).map fun run => min run.length 2).sum :=
  lengthAfter_eq_sum none none text fun _ _ => by simp

theorem effectiveLength_mono {fewer more : List Char} (h : fewer.Sublist more) :
    effectiveLength fewer ≤ effectiveLength more :=
  lengthAfter_mono h none none

theorem effectiveLength_pos {text : List Char} (h : text ≠ []) : 0 < effectiveLength text := by
  cases text with
  | nil => exact absurd rfl h
  | cons c rest =>
    have hone : effectiveLength (c :: rest) = 1 + lengthAfter none (some c) rest := by
      simp [effectiveLength, lengthAfter]
    omega

theorem CharClass.mem_all (k : CharClass) : k ∈ all := by
  cases k <;> decide

theorem CharClass.ten_le_size (k : CharClass) : 10 ≤ k.size := by
  cases k <;> decide

/-- The pool is the sum of the sizes of exactly the classes that occur. -/
theorem pool_eq_sum (text : List Char) :
    pool text = ∑ k ∈ (text.map CharClass.of).toFinset, k.size := by
  have hsum (ks : List CharClass) : ks.foldl (· + ·.size) 0 = (ks.map CharClass.size).sum := by
    rw [List.sum_eq_foldl, List.foldl_map]
  have hnodup : (CharClass.all.filter fun k => text.any fun c => CharClass.of c == k).Nodup :=
    List.Nodup.filter _ (by decide)
  rw [pool, hsum, ← List.sum_toFinset _ hnodup]
  congr 1
  ext k
  simp [CharClass.mem_all]

theorem pool_mono {fewer more : List Char} (h : fewer.Sublist more) : pool fewer ≤ pool more := by
  rw [pool_eq_sum, pool_eq_sum]
  refine Finset.sum_le_sum_of_subset fun k hk => ?_
  rw [List.mem_toFinset] at hk ⊢
  exact (h.map CharClass.of).subset hk

/-- A character adds at least its own class. -/
theorem ten_le_pool {text : List Char} (h : text ≠ []) : 10 ≤ pool text := by
  obtain ⟨c, rest, rfl⟩ := List.exists_cons_of_ne_nil h
  have hc : CharClass.of c ∈ ((c :: rest).map CharClass.of).toFinset := by simp
  rw [pool_eq_sum]
  exact (CharClass.ten_le_size _).trans (Finset.single_le_sum (fun _ _ => Nat.zero_le _) hc)

theorem pool_eq_zero {text : List Char} : pool text = 0 ↔ text = [] := by
  constructor
  · intro h
    by_contra hne
    have hten := ten_le_pool hne
    omega
  · rintro rfl
    rfl

end GroupAccess.Password
