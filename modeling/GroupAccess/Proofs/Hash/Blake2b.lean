import GroupAccess.Hash.Argon2

namespace GroupAccess

theorem Word.length_littleEndian64 (w : UInt64) : (littleEndian64 w).length = 8 := rfl

namespace Blake2b

theorem size_mix (v : Array UInt64) (lane : Nat × Nat × Nat × Nat) (x y : UInt64) :
    (mix v lane x y).size = v.size := by
  simp only [mix, Array.size_setIfInBounds]

theorem size_round (m v : Array UInt64) (row : List Nat) : (round m v row).size = v.size := by
  unfold round
  induction lanes.zip (Word.pieces 1 row) generalizing v with
  | nil => rfl
  | cons step steps ih =>
    rw [List.foldl_cons, ih]
    obtain ⟨lane, words⟩ := step
    dsimp only
    split
    · exact size_mix ..
    · rfl

theorem size_rounds (m v : Array UInt64) (rows : List (List Nat)) :
    (rows.foldl (round m) v).size = v.size := by
  induction rows generalizing v with
  | nil => rfl
  | cons row rows ih => rw [List.foldl_cons, ih, size_round]

/-- The state stays eight words long. -/
theorem length_compress {h : List UInt64} (hh : h.length = 8) (block : List UInt64) (count : Nat)
    (last : Bool) : (compress h block count last).length = 8 := by
  have hiv : iv.length = 8 := rfl
  simp only [compress]
  generalize hv : (if last then _ else _ : Array UInt64) = v
  have hs : v.size = 16 := by
    rw [← hv]
    split <;> simp [hh, hiv]
  have hw : (sigma.foldl (round block.toArray) v).toList.length = 16 := by
    rw [Array.length_toList, size_rounds, hs]
  simp only [List.length_zipWith, List.length_take, List.length_drop, hw, hh]
  rfl

theorem length_absorb {h : List UInt64} (hh : h.length = 8) (count : Nat)
    (blocks : List (List UInt8)) : (absorb h count blocks).length = 8 := by
  fun_induction absorb h count blocks with
  | case1 => exact hh
  | case2 => exact length_compress hh ..
  | case3 h count b rest _ ih => exact ih (length_compress hh ..)

theorem length_digest {size : Nat} (hs : size ≤ 64) (message : List UInt8) :
    (digest size message).length = size := by
  have hh : (iv.modify 0 (· ^^^ (0x01010000 + UInt64.ofNat size))).length = 8 := by
    rw [List.length_modify]
    rfl
  have hw (words : List UInt64) :
      (words.flatMap Word.littleEndian64).length = 8 * words.length := by
    rw [List.length_flatMap, List.map_congr_left fun w _ => Word.length_littleEndian64 w,
      List.map_const', List.sum_replicate_nat, Nat.mul_comm]
  simp only [digest, List.length_take, hw, length_absorb hh]
  exact Nat.min_eq_left hs

end Blake2b

/-- A password hash is as long as its parameters ask. -/
theorem Argon2.length_digest (i : Input) (h : i.params.output ≤ 64) :
    i.digest.length = i.params.output := by
  simp only [Input.digest, longDigest, if_pos h]
  exact Blake2b.length_digest h _

end GroupAccess
