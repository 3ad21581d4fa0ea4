namespace GroupAccess.Decimal

def twoTo (n : Nat) : Nat := Nat.pow 2 n

def tenTo (n : Nat) : Nat := Nat.pow 10 n

/-- A number as it is stored: `significand` times two to the power `exponent`. -/
inductive Binary
  | nan
  | infinite (negative : Bool)
  | finite (negative : Bool) (significand : Nat) (exponent : Int)
  deriving DecidableEq, Repr

def Binary.ofBits (bits : UInt64) : Binary :=
  let n := bits.toNat
  let negative := n / twoTo 63 == 1
  let field : Nat := n / twoTo 52 % twoTo 11
  let fraction : Nat := n % twoTo 52
  if field = 2047 then if fraction = 0 then .infinite negative else .nan
  else if field = 0 then .finite negative fraction (-1074)
  else .finite negative (fraction + twoTo 52) ((field : Int) - 1075)

/-- The nearest whole number to a quotient, the even one of two. -/
def roundDiv (num den : Nat) : Nat :=
  let q := num / den
  let r := num % den
  if 2 * r < den then q else if 2 * r = den then q + q % 2 else q + 1

/-- `n` divided by ten to the power `places`, with that many digits after the point. -/
def point (places n : Nat) : List Char :=
  let digits := Nat.toDigits 10 n
  let digits := List.replicate (places + 1 - digits.length) '0' ++ digits
  let whole := digits.length - places
  if places = 0 then digits else digits.take whole ++ '.' :: digits.drop whole

def Binary.fixed (places : Nat) : Binary → List Char
  | .nan => ['N', 'a', 'N']
  | .infinite negative => (if negative then ['-'] else []) ++ ['i', 'n', 'f']
  | .finite negative significand exponent =>
    let scaled :=
      if 0 ≤ exponent then significand * twoTo exponent.toNat * tenTo places
      else roundDiv (significand * tenTo places) (twoTo (-exponent).toNat)
    (if negative then ['-'] else []) ++ point places scaled

/-- The text of `x` with `places` digits after the point: the nearest such decimal, of two the one
with the even digit. -/
def fixed (places : Nat) (x : Float) : String :=
  String.ofList ((Binary.ofBits x.toBits).fixed places)

end GroupAccess.Decimal
