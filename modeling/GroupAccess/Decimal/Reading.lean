namespace GroupAccess.Decimal

inductive NumberError
  | empty
  | invalidDigit
  | tooLarge
  | tooSmall
  | emptyFloat
  | invalidFloat
  deriving DecidableEq, Repr

def NumberError.message : NumberError → String
  | .empty => "cannot parse integer from empty string"
  | .invalidDigit => "invalid digit found in string"
  | .tooLarge => "number too large to fit in target type"
  | .tooSmall => "number too small to fit in target type"
  | .emptyFloat => "cannot parse float from empty string"
  | .invalidFloat => "invalid float literal"

/-- Inclusive bounds of a whole number type. -/
structure Bounds where
  low : Int
  high : Int
  deriving DecidableEq, Repr

def Bounds.signed (bits : Nat) : Bounds :=
  let half := Int.ofNat (Nat.pow 2 (bits - 1))
  ⟨-half, half - 1⟩

def Bounds.unsigned (bits : Nat) : Bounds := ⟨0, Int.ofNat (Nat.pow 2 bits) - 1⟩

def Bounds.contains (b : Bounds) (n : Int) : Bool := b.low ≤ n && n ≤ b.high

def digit? (c : Char) : Option Nat :=
  if '0' ≤ c ∧ c ≤ '9' then some (c.toNat - 48) else none

/-- Reads digits after the value `n`; the first bad digit or the first excess over `limit` is
reported. -/
def digits (limit : Nat) (excess : NumberError) (n : Nat) : List Char → Except NumberError Nat
  | [] => .ok n
  | c :: rest =>
    match digit? c with
    | none => .error .invalidDigit
    | some d => if n * 10 + d > limit then .error excess else digits limit excess (n * 10 + d) rest

def someDigits (limit : Nat) (excess : NumberError) : List Char → Except NumberError Nat
  | [] => .error .invalidDigit
  | cs => digits limit excess 0 cs

/-- An optional sign and at least one digit; a minus only where negative numbers fit. -/
def readWhole (b : Bounds) (text : String) : Except NumberError Int :=
  match text.toList with
  | [] => .error .empty
  | '+' :: cs => (someDigits b.high.toNat .tooLarge cs).map Int.ofNat
  | '-' :: cs =>
    if b.low < 0 then (someDigits (-b.low).toNat .tooSmall cs).map fun n => -(n : Int)
    else .error .invalidDigit
  | cs => (someDigits b.high.toNat .tooLarge cs).map Int.ofNat

def isDigit (c : Char) : Bool := (digit? c).isSome

def value (cs : List Char) : Nat := cs.foldl (fun n c => n * 10 + (c.toNat - 48)) 0

/-- `n` times ten to the power `e`, where powers beyond any double are cut short. -/
def ofScientific (n : Nat) (e : Int) : Float :=
  let size : Int := (Nat.toDigits 10 n).length
  if n = 0 then 0.0
  else if e + size > 400 then 1.0 / 0.0
  else if e + size < -400 then 0.0
  else if e < 0 then Float.ofScientific n true (-e).toNat
  else Float.ofScientific n false e.toNat

/-- The power of ten after `e` or `E`. -/
def exponent? : List Char → Option Int
  | '+' :: cs => if cs ≠ [] ∧ cs.all isDigit then some (value cs) else none
  | '-' :: cs => if cs ≠ [] ∧ cs.all isDigit then some (-(value cs : Int)) else none
  | cs => if cs ≠ [] ∧ cs.all isDigit then some (value cs) else none

/-- Digits with at most one point among them and an optional power of ten. -/
def unsignedFloat? (cs : List Char) : Option Float :=
  let whole := cs.takeWhile isDigit
  let rest := cs.dropWhile isDigit
  let (fraction, rest) :=
    match rest with
    | '.' :: rest => (rest.takeWhile isDigit, rest.dropWhile isDigit)
    | rest => ([], rest)
  let power : Option Int :=
    match rest with
    | [] => some 0
    | c :: rest => if c = 'e' ∨ c = 'E' then exponent? rest else none
  if whole.isEmpty && fraction.isEmpty then none
  else power.map fun e => ofScientific (value (whole ++ fraction)) (e - fraction.length)

def readFloat (text : String) : Except NumberError Float :=
  if text.isEmpty then .error .emptyFloat
  else
    let (negative, cs) : Bool × List Char :=
      match text.toList with
      | '+' :: cs => (false, cs)
      | '-' :: cs => (true, cs)
      | cs => (false, cs)
    let word := String.ofList (cs.map Char.toLower)
    let magnitude :=
      if word = "inf" ∨ word = "infinity" then some (1.0 / 0.0)
      else if word = "nan" then some (0.0 / 0.0)
      else unsignedFloat? cs
    match magnitude with
    | some x => .ok (if negative then -x else x)
    | none => .error .invalidFloat

end GroupAccess.Decimal
