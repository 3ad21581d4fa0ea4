import GroupAccess.Decimal.Fixed

namespace GroupAccess

/-- A password, whose description never shows it. -/
structure Password where
  text : String
  deriving DecidableEq

namespace Password

def describe (_ : Password) : String := "Password([REDACTED])"

inductive CharClass
  | lower
  | upper
  | digit
  | symbol
  | other
  deriving DecidableEq, Repr

def CharClass.all : List CharClass := [.lower, .upper, .digit, .symbol, .other]

/-- ASCII punctuation and the blank are symbols. -/
def CharClass.of (c : Char) : CharClass :=
  let n := c.toNat
  if 'a' ≤ c ∧ c ≤ 'z' then .lower
  else if 'A' ≤ c ∧ c ≤ 'Z' then .upper
  else if '0' ≤ c ∧ c ≤ '9' then .digit
  else if 0x20 ≤ n ∧ n ≤ 0x7e then .symbol
  else .other

def CharClass.size : CharClass → Nat
  | .lower => 26
  | .upper => 26
  | .digit => 10
  | .symbol => 32
  | .other => 32

/-- The summed sizes of the classes that occur in a text. -/
def pool (text : List Char) : Nat :=
  (CharClass.all.filter fun k => text.any fun c => CharClass.of c == k).foldl (· + ·.size) 0

/-- Counts the characters that differ from one of the two before them, given those two. -/
def lengthAfter (first second : Option Char) : List Char → Nat
  | [] => 0
  | c :: rest =>
    (if first = some c ∧ second = some c then 0 else 1) + lengthAfter second (some c) rest

def effectiveLength (text : List Char) : Nat := lengthAfter none none text

/-- Bits by the classes that occur; of a run of equal characters at most two count. -/
def entropy (password : Password) : Float :=
  let chars := password.text.toList
  if pool chars = 0 then 0.0 else Float.log2 (pool chars).toFloat * (effectiveLength chars).toFloat

inductive PasswordError
  | tooLong (limit : Nat)
  | tooWeak (entropy required : Float)

def PasswordError.message : PasswordError → String
  | .tooLong limit => s!"password exceeds {limit} bytes"
  | .tooWeak entropy required =>
    let (bits, needed) := (Decimal.fixed 1 entropy, Decimal.fixed 1 required)
    s!"password entropy {bits} bits is below the required {needed}"

/-- The entropy of a password that is not below `required`. -/
def checkStrength (password : Password) (required : Float) : Except PasswordError Float :=
  let bits := password.entropy
  if bits < required then .error (.tooWeak bits required) else .ok bits

end Password

end GroupAccess
