import GroupAccess.Text.Basic

namespace GroupAccess.Text

/-- No blank at either end. -/
structure Bare (text : List Char) : Prop where
  head : ∀ c ∈ text.head?, isBlank c = false
  last : ∀ c ∈ text.getLast?, isBlank c = false

theorem head?_dropWhile_isBlank (text : List Char) :
    ∀ c ∈ (text.dropWhile isBlank).head?, isBlank c = false := by
  induction text with
  | nil => simp
  | cons c rest ih =>
    cases hc : isBlank c with
    | true => simpa [List.dropWhile_cons, hc] using ih
    | false => simp [hc]

theorem dropWhile_isBlank_eq {text : List Char} (h : ∀ c ∈ text.head?, isBlank c = false) :
    text.dropWhile isBlank = text := by
  cases text with
  | nil => rfl
  | cons c rest => rw [List.dropWhile_cons_of_neg (by simpa using h c rfl)]

theorem Bare.trimChars_eq {text : List Char} (h : Bare text) : trimChars text = text := by
  have hl : ∀ c ∈ text.reverse.head?, isBlank c = false := by
    rw [List.head?_reverse]
    exact h.last
  rw [trimChars, dropWhile_isBlank_eq h.head, dropWhile_isBlank_eq hl, List.reverse_reverse]

theorem bare_trimChars (text : List Char) : Bare (trimChars text) := by
  constructor
  · -- What is left of the text without its first blanks starts as it does.
    intro c hc
    have hs := List.dropWhile_suffix isBlank (l := (text.dropWhile isBlank).reverse)
    obtain ⟨rest, hr⟩ : trimChars text <+: text.dropWhile isBlank := by
      rwa [← List.reverse_suffix, trimChars, List.reverse_reverse]
    apply head?_dropWhile_isBlank text
    rw [← hr, List.head?_append, hc]
    rfl
  · rw [trimChars, List.getLast?_reverse]
    exact head?_dropWhile_isBlank _

theorem trim_trim (text : String) : trim (trim text) = trim text := by
  rw [trim, trim, String.toList_ofList, (bare_trimChars _).trimChars_eq]

end GroupAccess.Text
