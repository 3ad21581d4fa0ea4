import GroupAccess.Hash.Argon2
import GroupAccess.Password.Entropy
import GroupAccess.Password.Stored
import GroupAccess.Text.Basic

namespace GroupAccess.Password

def variant? (name : List Char) : Option Argon2.Variant :=
  match String.ofList name with
  | "argon2d" => some .dataDependent
  | "argon2i" => some .dataIndependent
  | "argon2id" => some .hybrid
  | _ => none

def version? : Option Nat → Option Argon2.Version
  | none => some .v19
  | some 16 => some .v16
  | some 19 => some .v19
  | some _ => none

/-- Bytes of a parameter of at most `limit` bytes. -/
def bytes? (limit : Nat) (value : List Char) : Option (List UInt8) := do
  let bytes ← Base64.decode? Base64.standard value
  guard (bytes.length ≤ limit)
  return bytes

/-- Sets one parameter; a key identifier is checked and has no effect. -/
def setParam (p : Argon2.Params) (param : List Char × List Char) : Option Argon2.Params :=
  match String.ofList param.1 with
  | "m" => (Stored.decimal? param.2).map fun n => { p with memory := n }
  | "t" => (Stored.decimal? param.2).map fun n => { p with passes := n }
  | "p" => (Stored.decimal? param.2).map fun n => { p with lanes := n }
  | "keyid" => (bytes? 8 param.2).map fun _ => p
  | "data" => (bytes? 32 param.2).map fun d => { p with data := d }
  | _ => none

/-- The costs that a stored hash asks for, if the algorithm admits them. -/
def params? (s : Stored) (output : List UInt8) : Option Argon2.Params := do
  let p ← s.params.foldlM setParam Argon2.Params.default
  guard (8 ≤ p.memory ∧ p.lanes * 8 ≤ p.memory ∧ 1 ≤ p.passes ∧ 1 ≤ p.lanes ∧ p.lanes < 16777216)
  return { p with output := output.length }

/-- The hash that a stored text records for a password, beside the recorded output. -/
def recompute? (s : Stored) (password : Password) (secret : List UInt8) :
    Option (List UInt8 × List UInt8) := do
  let salt ← s.salt
  let output ← s.output
  let params ← params? s output
  let variant ← variant? s.algorithm
  let version ← version? s.version
  let salt ← Base64.decode? Base64.standard salt
  guard (8 ≤ salt.length)
  let input : Argon2.Input := ⟨variant, version, params, utf8 password.text, salt, secret⟩
  return (input.digest, output)

/-- Whether `password` is the one that `stored` was made from, under the secret `secret`. -/
def verify (password : Password) (stored secret : String) : Bool :=
  match Stored.parse? stored.toList with
  | none => false
  | some s =>
    match recompute? s password (utf8 secret) with
    | some (computed, recorded) => computed == recorded
    | none => false

abbrev Salt := Vector UInt8 16

def toStored (password : Password) (secret : String) (salt : Salt) : Stored :=
  let p := Argon2.Params.default
  let input : Argon2.Input :=
    ⟨.hybrid, .v19, p, utf8 password.text, salt.toList, utf8 secret⟩
  { algorithm := ['a', 'r', 'g', 'o', 'n', '2', 'i', 'd'], version := some 19
    params := [(['m'], Nat.toDigits 10 p.memory), (['t'], Nat.toDigits 10 p.passes),
      (['p'], Nat.toDigits 10 p.lanes)]
    salt := some (Base64.encode Base64.standard salt.toList)
    output := some input.digest }

/-- The stored text of a password of at most `limit` bytes; a longer one is never cut. -/
def hash (password : Password) (secret : String) (limit : Nat) (salt : Salt) :
    Except PasswordError String :=
  if password.text.utf8ByteSize > limit then .error (.tooLong limit)
  else .ok (String.ofList (password.toStored secret salt).render)

end GroupAccess.Password
