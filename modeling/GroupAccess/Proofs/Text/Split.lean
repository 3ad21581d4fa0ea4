import GroupAccess.Text.Basic

namespace GroupAccess

namespace Text

variable {sep : Char}

theorem split_of_not_mem {cs : List Char} (h : sep ∉ cs) : split sep cs = [cs] := by
  induction cs with
  | nil => rfl
  | cons c cs ih =>
    rw [split, if_neg (Ne.symm (List.ne_of_not_mem_cons h)), ih (List.not_mem_of_not_mem_cons h)]

/-- A piece without a separator is cut off at the first one. -/
theorem split_append {cs : List Char} (h : sep ∉ cs) (rest : List Char) :
    split sep (cs ++ sep :: rest) = cs :: split sep rest := by
  induction cs with
  | nil => exact if_pos rfl
  | cons c cs ih =>
    rw [List.cons_append, split, if_neg (Ne.symm (List.ne_of_not_mem_cons h)),
      ih (List.not_mem_of_not_mem_cons h)]

/-- Pieces that are joined are cut apart again. -/
theorem split_join {piece : List Char} {pieces : List (List Char)}
    (h : ∀ p ∈ piece :: pieces, sep ∉ p) : split sep (join sep (piece :: pieces)) =
      piece :: pieces := by
  induction pieces generalizing piece with
  | nil => exact split_of_not_mem (h piece List.mem_cons_self)
  | cons next pieces ih =>
    rw [join, split_append (h piece List.mem_cons_self)]
    · exact congrArg _ (ih fun p hp => h p (List.mem_cons_of_mem piece hp))
    · exact List.cons_ne_nil _ _

theorem split_ne_nil (cs : List Char) : split sep cs ≠ [] := by
  fun_cases split sep cs <;> exact List.cons_ne_nil _ _

theorem join_cons {piece : List Char} {pieces : List (List Char)} (h : pieces ≠ []) :
    join sep (piece :: pieces) = piece ++ sep :: join sep pieces := by
  cases pieces with
  | nil => exact absurd rfl h
  | cons next pieces => rfl

theorem join_cons_cons (c : Char) (piece : List Char) (pieces : List (List Char)) :
    join sep ((c :: piece) :: pieces) = c :: join sep (piece :: pieces) := by
  cases pieces <;> rfl

/-- What stands in joined pieces is the separator or stands in one of them. -/
theorem mem_join {c : Char} {pieces : List (List Char)} (h : c ∈ join sep pieces) :
    c = sep ∨ ∃ piece ∈ pieces, c ∈ piece := by
  induction pieces with
  | nil => cases h
  | cons piece pieces ih =>
    by_cases hp : pieces = []
    · subst hp
      exact .inr ⟨piece, List.mem_cons_self, h⟩
    · rw [join_cons hp, List.mem_append, List.mem_cons] at h
      rcases h with h | rfl | h
      · exact .inr ⟨piece, List.mem_cons_self, h⟩
      · exact .inl rfl
      · obtain rfl | ⟨q, hq, hc⟩ := ih h
        · exact .inl rfl
        · exact .inr ⟨q, List.mem_cons_of_mem piece hq, hc⟩

/-- The pieces of a text, joined, are the text. -/
theorem join_split (cs : List Char) : join sep (split sep cs) = cs := by
  induction cs with
  | nil => rfl
  | cons c cs ih =>
    rw [split]
    split
    · rename_i hc
      rw [join_cons (split_ne_nil cs), ih, hc, List.nil_append]
    · split
      · rename_i hs
        exact absurd hs (split_ne_nil cs)
      · rename_i piece pieces hs
        rw [join_cons_cons, ← hs, ih]

/-- No piece of a text has a separator in it. -/
theorem not_mem_of_mem_split {cs piece : List Char} (h : piece ∈ split sep cs) : sep ∉ piece := by
  induction cs generalizing piece with
  | nil =>
    rw [List.mem_singleton.1 h]
    exact List.not_mem_nil
  | cons c cs ih =>
    rw [split] at h
    split at h
    · rcases List.mem_cons.1 h with rfl | h
      · exact List.not_mem_nil
      · exact ih h
    · rename_i hc
      split at h
      · rename_i hs
        exact absurd hs (split_ne_nil cs)
      · rename_i first pieces hs
        rcases List.mem_cons.1 h with rfl | h
        · rw [List.mem_cons, not_or]
          exact ⟨Ne.symm hc, ih (hs ▸ List.mem_cons_self)⟩
        · exact ih (hs ▸ List.mem_cons_of_mem first h)

/-- A text is cut into the pieces that have no separator in them and are the text when joined. -/
theorem split_eq_cons_iff {cs piece : List Char} {pieces : List (List Char)} :
    split sep cs = piece :: pieces ↔
      (∀ p ∈ piece :: pieces, sep ∉ p) ∧ join sep (piece :: pieces) = cs := by
  constructor
  · intro h
    rw [← h]
    exact ⟨fun p => not_mem_of_mem_split, join_split cs⟩
  · rintro ⟨h, rfl⟩
    exact split_join h

end Text

end GroupAccess
