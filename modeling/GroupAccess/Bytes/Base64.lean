namespace GroupAccess.Base64

/-- The last two digits are all that alphabets differ in. -/
structure Alphabet where
  digit62 : Char
  digit63 : Char
  deriving DecidableEq, Repr

def urlSafe : Alphabet := ⟨'-', '_'⟩

def standard : Alphabet := ⟨'+', '/'⟩

def Alphabet.digit (a : Alphabet) (n : Nat) : Char :=
  if n < 26 then Char.ofNat (n + 65)
  else if n < 52 then Char.ofNat (n + 71)
  else if n < 62 then Char.ofNat (n - 4)
  else if n = 62 then a.digit62
  else a.digit63

def Alphabet.value? (a : Alphabet) (c : Char) : Option Nat :=
  if 'A' ≤ c ∧ c ≤ 'Z' then some (c.toNat - 65)
  else if 'a' ≤ c ∧ c ≤ 'z' then some (c.toNat - 71)
  else if '0' ≤ c ∧ c ≤ '9' then some (c.toNat + 4)
  else if c = a.digit62 then some 62
  else if c = a.digit63 then some 63
  else none

/-- Three bytes become four digits; one byte two, two bytes three. -/
def encode (a : Alphabet) : List UInt8 → List Char
  | [] => []
  | [x] => [a.digit (x.toNat / 4), a.digit (x.toNat % 4 * 16)]
  | [x, y] =>
    [a.digit (x.toNat / 4), a.digit (x.toNat % 4 * 16 + y.toNat / 16),
      a.digit (y.toNat % 16 * 4)]
  | x :: y :: z :: rest =>
    a.digit (x.toNat / 4) :: a.digit (x.toNat % 4 * 16 + y.toNat / 16) ::
      a.digit (y.toNat % 16 * 4 + z.toNat / 64) :: a.digit (z.toNat % 64) :: encode a rest

/-- Refuses padding, foreign characters, a single last digit and set bits past the last byte. -/
def decode? (a : Alphabet) : List Char → Option (List UInt8)
  | [] => some []
  | [_] => none
  | [c, d] => do
    let p ← a.value? c
    let q ← a.value? d
    if q % 16 = 0 then some [UInt8.ofNat (p * 4 + q / 16)] else none
  | [c, d, e] => do
    let p ← a.value? c
    let q ← a.value? d
    let r ← a.value? e
    if r % 4 = 0 then
      some [UInt8.ofNat (p * 4 + q / 16), UInt8.ofNat (q % 16 * 16 + r / 4)]
    else none
  | c :: d :: e :: f :: rest => do
    let p ← a.value? c
    let q ← a.value? d
    let r ← a.value? e
    let s ← a.value? f
    let tail ← decode? a rest
    return UInt8.ofNat (p * 4 + q / 16) :: UInt8.ofNat (q % 16 * 16 + r / 4) ::
      UInt8.ofNat (r % 4 * 64 + s) :: tail

end GroupAccess.Base64
