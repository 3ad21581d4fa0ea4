namespace GroupAccess

def nanosPerSecond : Int := 1000000000

/-- A signed length of time, at most `2 ^ 63 - 1` milliseconds either way. -/
structure Span where
  nanos : Int
  bounded : -(9223372036854775807 * 1000000) ≤ nanos ∧ nanos ≤ 9223372036854775807 * 1000000
  deriving DecidableEq

namespace Span

def ofNanos? (n : Int) : Option Span :=
  if h : -(9223372036854775807 * 1000000) ≤ n ∧ n ≤ 9223372036854775807 * 1000000 then some ⟨n, h⟩
  else none

def longest : Span := ⟨9223372036854775807 * 1000000, by decide⟩

def ofSeconds? (n : Int) : Option Span := ofNanos? (n * nanosPerSecond)

/-- `n` minutes, or the longest span when that is out of bounds on either side. -/
def minutes (n : Int) : Span := (ofSeconds? (n * 60)).getD longest

/-- `n` days, or the longest span when that is out of bounds on either side. -/
def days (n : Int) : Span := (ofSeconds? (n * 86400)).getD longest

/-- Whole seconds, cut toward zero. -/
def seconds (s : Span) : Int := s.nanos.tdiv nanosPerSecond

/-- Nine digits of a second without the zeros at their end, after a point. -/
def fraction (nanos : Nat) : List Char :=
  let digits := Nat.toDigits 10 (1000000000 + nanos)
  let kept := ((digits.drop 1).reverse.dropWhile (· == '0')).reverse
  if kept.isEmpty then [] else '.' :: kept

/-- Seconds between `PT` and `S` after a sign; no time at all is `P0D`. -/
def text (s : Span) : String :=
  let n := s.nanos.natAbs
  if n = 0 then "P0D"
  else
    let sign := if s.nanos < 0 then "-" else ""
    sign ++ "PT" ++ toString (n / 1000000000) ++ String.ofList (fraction (n % 1000000000)) ++ "S"

end Span

end GroupAccess
