import GroupAccess.Proofs.Password.Stored

namespace GroupAccess

namespace Password

open Stored

/-- A text that records a hash: the text of a well-formed one. -/
def Records (text : String) (s : Stored) : Prop := s.WellFormed ∧ s.render = text.toList

theorem records_iff {text : String} {s : Stored} : Records text s ↔ parse? text.toList = some s :=
  parse?_eq_some_iff.symm

theorem not_records_empty (s : Stored) : ¬Records "" s := by
  intro h
  cases records_iff.1 h

/-- There is no password for a text that records no hash. -/
theorem verify_of_not_records {text : String} (h : ∀ s, ¬Records text s) (password : Password)
    (secret : String) : password.verify text secret = false := by
  have hnone : parse? text.toList = none :=
    Option.eq_none_iff_forall_not_mem.2 fun s hs => h s (records_iff.2 hs)
  rw [verify, hnone]

end Password

open Password

/-- A password that is too long is refused, and any other is stored as a text that records its hash.
This text matches another password under another secret exactly if the two give the same output with
the same salt. A text that is empty or records no hash matches nothing. (The algorithm is defined for
passwords and secrets of less than `2 ^ 32` bytes.) -/
theorem hash_verified (password : Password) (secret : String) (salt : Salt) (limit : Nat) :
    (limit < password.text.utf8ByteSize →
      password.hash secret limit salt = .error (.tooLong limit)) ∧
    (password.text.utf8ByteSize ≤ limit → ∃ text, password.hash secret limit salt = .ok text ∧
      Records text (password.toStored secret salt) ∧
      (∀ (other : Password) (key : String), other.verify text key = true ↔
        other.output key salt = password.output secret salt) ∧
      password.verify text secret = true) ∧
    ∀ text : String, (text = "" ∨ ∀ s, ¬Records text s) →
      ∀ (other : Password) (key : String), other.verify text key = false := by
  refine ⟨fun hl => if_pos hl, fun hl => ?_, fun text ht other key => ?_⟩
  · have hhash : password.hash secret limit salt =
        .ok (String.ofList (password.toStored secret salt).render) := if_neg (Nat.not_lt.2 hl)
    refine ⟨_, hhash, ⟨password.toStored_wellFormed secret salt, ?_⟩, fun other key => ?_,
      verify_hash salt hhash⟩
    · rw [String.toList_ofList]
    · rw [verify_toStored, beq_iff_eq]
  · rcases ht with rfl | ht
    · exact verify_of_not_records not_records_empty other key
    · exact verify_of_not_records ht other key

namespace Sample

/-- No hash is written so: a version does not begin with a zero. -/
def padded : String := "$argon2id$v=019$m=8,t=1,p=1$c2FsdHNhbHQ$VeeFR/aQyx//nhw+LkkHeQ"

theorem not_records_padded (s : Stored) : ¬Records padded s := by
  have hnone : (Stored.parse? padded.toList).isNone = true := by decide +kernel
  rw [records_iff, Option.isNone_iff_eq_none.1 hnone]
  exact fun h => by cases h

end Sample

open Sample in
/-- A text of two bytes is too long for a limit of one. -/
theorem hash_verified_sample :
    (Password.mk "é").hash "server" 1 (Vector.replicate 16 7) = .error (.tooLong 1) ∧
      (∃ text, (Password.mk "é").hash "server" 2 (Vector.replicate 16 7) = .ok text ∧
        (Password.mk "é").verify text "server" = true) ∧
      (Password.mk "é").verify padded "server" = false := by
  obtain ⟨hlong, -, hmalformed⟩ := hash_verified ⟨"é"⟩ "server" (Vector.replicate 16 7) 1
  obtain ⟨-, hstored, -⟩ := hash_verified ⟨"é"⟩ "server" (Vector.replicate 16 7) 2
  obtain ⟨text, hhash, -, -, hmatch⟩ := hstored (by decide +kernel)
  exact ⟨hlong (by decide +kernel), ⟨text, hhash, hmatch⟩,
    hmalformed _ (.inr not_records_padded) _ _⟩

end GroupAccess
