import GroupAccess.Password.Hashing
import GroupAccess.Proofs.Hash.Blake2b
import GroupAccess.Proofs.Password.Format

namespace GroupAccess

namespace Password

open Stored

variable (password : Password) (secret : String) (salt : Salt)

/-- The output that is stored for a password. -/
def output : List UInt8 :=
  Argon2.Input.digest
    ⟨.hybrid, .v19, .default, utf8 password.text, salt.toList, utf8 secret⟩

theorem length_output : (password.output secret salt).length = 32 :=
  Argon2.length_digest _ (show 32 ≤ 64 by decide)

theorem toStored_wellFormed : (password.toStored secret salt).WellFormed where
  algorithm := by
    change isName "argon2id".toList = true
    decide
  version := by
    rintro v ⟨⟩
    decide
  params := by
    have hp : ∀ p ∈ [("m".toList, "19456".toList), ("t".toList, "2".toList), ("p".toList, "1".toList)],
        isName p.1 = true ∧ isValue p.2 = true := by decide
    exact hp
  paramsLength := by
    have hl : "m=19456,t=2,p=1".toList.length ≤ 127 := by decide
    exact hl
  unversioned h := by cases h
  salt := by
    rintro t ⟨⟩
    have hl : (Base64.encode Base64.standard salt.toList).length = 22 := by
      rw [Base64.length_encode, Vector.length_toList]
    rw [isValue, Bool.and_eq_true, decide_eq_true_eq, List.all_eq_true]
    exact ⟨by omega, by omega, fun c hc => (encode_standard hc).1⟩
  output := by
    rintro bytes ⟨⟩
    have hl : (Argon2.Input.digest ⟨.hybrid, .v19, .default, utf8 password.text, salt.toList,
      utf8 secret⟩).length = 32 := password.length_output secret salt
    omega
  salted h := by cases h

/-- The text of a stored hash is read as that hash. -/
theorem parse?_render :
    parse? (password.toStored secret salt).render = some (password.toStored secret salt) :=
  parse?_eq_some_iff.2 ⟨password.toStored_wellFormed secret salt, rfl⟩

theorem params?_toStored :
    params? (password.toStored secret salt) (password.output secret salt) =
      some .default := by
  have hp : (password.toStored secret salt).params.foldlM setParam .default =
      some Argon2.Params.default := rfl
  rw [params?, hp, length_output]
  rfl

/-- Any password is checked against what is stored by its own output. -/
theorem recompute?_toStored (other : Password) (key : String) :
    recompute? (password.toStored secret salt) other (utf8 key) =
      some (other.output key salt, password.output secret salt) := by
  have hs : (password.toStored secret salt).salt =
      some (Base64.encode Base64.standard salt.toList) := rfl
  have ho : (password.toStored secret salt).output = some (password.output secret salt) := rfl
  have hl : (guard (8 ≤ salt.toList.length) : Option Unit) = some () := by
    refine if_pos ?_
    rw [Vector.length_toList]
    decide
  have hvariant : variant? (password.toStored secret salt).algorithm = some .hybrid := rfl
  have hversion : version? (password.toStored secret salt).version = some .v19 := rfl
  rw [recompute?, hs, ho]
  dsimp only [Option.bind_eq_bind, Option.bind_some]
  rw [params?_toStored, Option.bind_some, hvariant, Option.bind_some, hversion, Option.bind_some,
    Base64.decode?_encode Base64.standard_reads, Option.bind_some, hl]
  rfl

theorem verify_toStored (other : Password) (key : String) :
    other.verify (String.ofList (password.toStored secret salt).render) key =
      (other.output key salt == password.output secret salt) := by
  simp only [verify, String.toList_ofList, parse?_render, recompute?_toStored]

variable {password secret}

/-- A password matches what was stored for it under the same secret. -/
theorem verify_hash {limit : Nat} {text : String}
    (h : password.hash secret limit salt = .ok text) : password.verify text secret = true := by
  unfold hash at h
  split at h
  · cases h
  · cases h
    rw [verify_toStored, BEq.rfl]

end Password

end GroupAccess
