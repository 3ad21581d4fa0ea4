import GroupAccess.Proofs.Token.Audience

namespace GroupAccess

namespace Secret

theorem toList_of_ofBytes? {bytes : List UInt8} {s : Secret} (h : ofBytes? bytes = some s) :
    s.toList = bytes := by
  unfold ofBytes? at h
  split at h
  · cases h
    rfl
  · cases h

/-- Only the characters that are written for a secret are read as it. -/
theorem ofChars?_eq_some_iff {cs : List Char} {s : Secret} :
    ofChars? cs = some s ↔ cs = s.chars := by
  constructor
  · intro h
    unfold ofChars? at h
    split at h
    · rename_i first rest hd
      split at h
      · rename_i htag
        rw [chars, toList_of_ofBytes? h, ← htag, Base64.encode_of_decode? hd]
      · cases h
    · cases h
  · rintro rfl
    exact s.ofChars?_chars

theorem length_text (s : Secret) : s.text.length = 44 := by
  rw [text, String.length_ofList, chars, Base64.length_encode, List.length_cons,
    Vector.length_toList]

theorem point_not_mem_chars (s : Secret) : '.' ∉ s.chars := Base64.point_not_mem_encode _

end Secret

namespace Presented

/-- The points of a text cut it into exactly three segments, and none of them is empty. -/
def Segmented (text : String) (header claims signature : List Char) : Prop :=
  Text.split '.' text.toList = [header, claims, signature] ∧
    header ≠ [] ∧ claims ≠ [] ∧ signature ≠ []

/-- The characters that are read as a presented token. -/
def chars : Presented → List Char
  | .signed header claims signature => Text.join '.' [header, claims, signature]
  | .secret s => s.chars

variable {text : String} {header claims signature : List Char}

theorem ofText?_signed_iff :
    ofText? text = some (.signed header claims signature) ↔
      Segmented text header claims signature := by
  unfold ofText? ofChars? Segmented
  split
  · rename_i whole hs
    rw [hs]
    constructor
    · intro h
      obtain ⟨s, -, h⟩ := Option.map_eq_some_iff.1 h
      cases h
    · rintro ⟨h, -⟩
      cases h
  · rename_i h p σ hs
    rw [hs]
    split
    · rename_i hempty
      constructor
      · intro h
        cases h
      · rintro ⟨h, hh, hp, hσ⟩
        cases h
        exact absurd hempty (not_or.2 ⟨hh, not_or.2 ⟨hp, hσ⟩⟩)
    · rename_i hempty
      rw [not_or, not_or] at hempty
      constructor
      · intro h
        cases h
        exact ⟨rfl, hempty⟩
      · rintro ⟨h, -⟩
        cases h
        rfl
  · rename_i hother
    constructor
    · intro h
      cases h
    · rintro ⟨h, -⟩
      exact absurd h (hother header claims signature)

/-- A text without points is read as a secret, and no other. -/
theorem ofText?_secret_iff {s : Secret} : ofText? text = some (.secret s) ↔ text = s.text := by
  constructor
  · intro h
    unfold ofText? ofChars? at h
    split at h
    · rename_i whole hs
      obtain ⟨s', hw, h⟩ := Option.map_eq_some_iff.1 h
      cases h
      have hjoin : whole = text.toList := (Text.split_eq_cons_iff.1 hs).2
      rw [Secret.text, ← Secret.ofChars?_eq_some_iff.1 hw, hjoin, String.ofList_toList]
    · split at h
      · cases h
      · cases h
    · cases h
  · rintro rfl
    exact ofText?_secret s

/-- What is read of a text is all of it. -/
theorem chars_of_ofText? {presented : Presented} (h : ofText? text = some presented) :
    presented.chars = text.toList := by
  cases presented with
  | signed header claims signature =>
    exact (Text.split_eq_cons_iff.1 (ofText?_signed_iff.1 h).1).2
  | secret s => rw [ofText?_secret_iff.1 h, Secret.text, String.toList_ofList, chars]

theorem not_segmented_secret (s : Secret) : ¬Segmented s.text header claims signature := by
  intro h
  have hr := ofText?_signed_iff.2 h
  rw [ofText?_secret] at hr
  cases hr

theorem ofText?_eq_none_iff :
    ofText? text = none ↔
      (¬∃ header claims signature, Segmented text header claims signature) ∧
        ∀ s : Secret, text ≠ s.text := by
  constructor
  · intro h
    constructor
    · rintro ⟨header, claims, signature, hs⟩
      rw [ofText?_signed_iff.2 hs] at h
      cases h
    · rintro s rfl
      rw [ofText?_secret] at h
      cases h
  · rintro ⟨hsigned, hsecret⟩
    cases h : ofText? text with
    | none => rfl
    | some presented =>
      cases presented with
      | signed header claims signature =>
        exact absurd ⟨header, claims, signature, ofText?_signed_iff.1 h⟩ hsigned
      | secret s => exact absurd (ofText?_secret_iff.1 h) (hsecret s)

end Presented

/-- A text of neither kind is an invalid token, in whatever state it is presented. -/
theorem Service.perform_unreadable {text : String} (h : Presented.ofText? text = none)
    (s : Service) (d : Draws) :
    (s.perform (.resolveToken text) d).1 = .error .tokenInvalid ∧
      (s.perform (.refresh text) d).1 = .error .tokenInvalid := by
  constructor
  · refine perform_resolveToken_refused ?_ d
    rw [Tokens.resolve, h]
    rfl
  · refine perform_refresh_refused ?_
    rw [Tokens.refresh, h]
    rfl

open Presented in
/-- The kind of a token is told exactly by its text, and a token has one text. -/
theorem presented_exact (text : String) :
    (∀ header claims signature, ofText? text = some (.signed header claims signature) ↔
      Segmented text header claims signature) ∧
    (∀ s : Secret, ofText? text = some (.secret s) ↔ text = s.text) ∧
    (ofText? text = none ↔
      (¬∃ header claims signature, Segmented text header claims signature) ∧
        ∀ s : Secret, text ≠ s.text) ∧
    (ofText? text = none → ∀ (s : Service) (d : Draws),
      (s.perform (.resolveToken text) d).1 = .error .tokenInvalid ∧
        (s.perform (.refresh text) d).1 = .error .tokenInvalid) ∧
    (∀ s : Secret, ofText? s.text = some (.secret s) ∧ '.' ∉ s.text.toList ∧
      s.text.length = 44 ∧ ∀ header claims signature,
        ¬Segmented s.text header claims signature) ∧
    ∀ (other : String) (presented : Presented), ofText? text = some presented →
      ofText? other = some presented → text = other := by
  refine ⟨fun header claims signature => ofText?_signed_iff, fun s => ofText?_secret_iff,
    ofText?_eq_none_iff, fun h s d => s.perform_unreadable h d, fun s => ?_,
    fun other presented h ho => ?_⟩
  · refine ⟨ofText?_secret s, ?_, s.length_text, fun _ _ _ => not_segmented_secret s⟩
    rw [Secret.text, String.toList_ofList]
    exact s.point_not_mem_chars
  · rw [← String.toList_inj, ← chars_of_ofText? h, chars_of_ofText? ho]

/-- Two segments, three of which one is empty, padding, and a secret that is too short. -/
theorem presented_exact_sample :
    ∀ text ∈ ["a.b", "a..c", "Tw==", "T01N"], Presented.ofText? text = none ∧
      (Sample.service.perform (.resolveToken text) (Sample.draws 0)).1 = .error .tokenInvalid := by
  have hnone : ∀ text ∈ ["a.b", "a..c", "Tw==", "T01N"], Presented.ofText? text = none := by
    decide +kernel
  exact fun text h => ⟨hnone text h,
    ((presented_exact text).2.2.2.1 (hnone text h) Sample.service (Sample.draws 0)).1⟩

end GroupAccess
