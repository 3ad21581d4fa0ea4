import GroupAccess.Decimal.Fixed

namespace GroupAccess.Decimal

/-- The numbers that are read as one floating-point number, all over the same denominator. -/
structure Interval where
  low : Nat
  mid : Nat
  high : Nat
  den : Nat
  /-- Whether the ends are read as that number too. -/
  closed : Bool
  deriving DecidableEq, Repr

namespace Interval

/-- The interval around `m` times two to the power `e`. Below a power of two the next number is
nearer than above. -/
def around (m : Nat) (e : Int) : Interval :=
  let below := if m = twoTo 52 ∧ -1074 < e then 1 else 2
  let scale := twoTo (e - 2).toNat
  { low := (4 * m - below) * scale, mid := 4 * m * scale, high := (4 * m + 2) * scale
    den := twoTo (2 - e).toNat, closed := m % 2 == 0 }

/-- Whether `n` times ten to the power `k` is in the interval. -/
def contains (i : Interval) (k : Int) (n : Nat) : Bool :=
  let value := n * tenTo k.toNat * i.den
  let low := i.low * tenTo (-k).toNat
  let high := i.high * tenTo (-k).toNat
  if i.closed then low ≤ value && value ≤ high else low < value && value < high

/-- The multiple of ten to the power `k` in the interval that is nearest to its middle. -/
def nearest? (i : Interval) (k : Int) : Option Nat :=
  let num := i.mid * tenTo (-k).toNat
  let den := i.den * tenTo k.toNat
  let floor := num / den
  match i.contains k floor, i.contains k (floor + 1) with
  | true, true => some (roundDiv num den)
  | true, false => some floor
  | false, true => some (floor + 1)
  | false, false => none

/-- Tries the powers of ten from `k` downwards. -/
def coarsest? (i : Interval) (k : Int) : Nat → Option (Nat × Int)
  | 0 => none
  | steps + 1 =>
    match i.nearest? k with
    | some n => some (n, k)
    | none => coarsest? i (k - 1) steps

end Interval

/-- No floating-point number is as large as ten to this power. -/
def topPower : Int := 309

/-- Down to the last decimal place of the least floating-point number. -/
def powers : Nat := 650

def Binary.shortest : Binary → List Char
  | .nan => ['N', 'a', 'N']
  | .infinite negative => (if negative then ['-'] else []) ++ ['i', 'n', 'f']
  | .finite negative m e =>
    let (n, k) := ((Interval.around m e).coarsest? topPower powers).getD (0, 0)
    (if negative then ['-'] else []) ++
      if m = 0 then ['0'] else point (-k).toNat (n * tenTo k.toNat)

/-- The fewest digits that are read back as the same number, without a power of ten. -/
def shortest (x : Float) : String := String.ofList (Binary.ofBits x.toBits).shortest

end GroupAccess.Decimal
