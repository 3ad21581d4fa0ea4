import GroupAccess.Time.Span

namespace GroupAccess

/-- Nanoseconds since the start of 1970, in the years -262143 to 262142 of the proleptic Gregorian
calendar. -/
structure Instant where
  nanos : Int
  bounded : -8334601228800 * 1000000000 ≤ nanos ∧ nanos < 8210266876800 * 1000000000
  deriving DecidableEq

namespace Instant

instance : LT Instant := ⟨fun a b => a.nanos < b.nanos⟩

instance : LE Instant := ⟨fun a b => a.nanos ≤ b.nanos⟩

instance (a b : Instant) : Decidable (a < b) := inferInstanceAs (Decidable (a.nanos < b.nanos))

instance (a b : Instant) : Decidable (a ≤ b) := inferInstanceAs (Decidable (a.nanos ≤ b.nanos))

def ofNanos? (n : Int) : Option Instant :=
  if h : -8334601228800 * 1000000000 ≤ n ∧ n < 8210266876800 * 1000000000 then some ⟨n, h⟩
  else none

/-- The instant `seconds` and `nanos` after the start of 1970. -/
def at? (seconds : Int) (nanos : Nat) : Option Instant :=
  ofNanos? (seconds * nanosPerSecond + nanos)

/-- The instant a span later, unless it is out of bounds. -/
def add? (t : Instant) (s : Span) : Option Instant := ofNanos? (t.nanos + s.nanos)

/-- Whole seconds since the start of 1970, toward the past. -/
def seconds (t : Instant) : Int := t.nanos.fdiv nanosPerSecond

structure Date where
  year : Int
  month : Nat
  day : Nat
  deriving DecidableEq, Repr

/-- The date of the `days`-th day after the first of January 1970. Years are counted from March,
in cycles of 400 years that have 146097 days. -/
def Date.ofDays (days : Int) : Date :=
  let shifted := days + 719468
  let cycle := shifted.fdiv 146097
  let day := (shifted.fmod 146097).toNat
  let year := (day - day / 1460 + day / 36524 - day / 146096) / 365
  let rest := day - (365 * year + year / 4 - year / 100)
  let month := (5 * rest + 2) / 153
  { year := year + cycle * 400 + (if month < 10 then 0 else 1)
    month := if month < 10 then month + 3 else month - 9
    day := rest - (153 * month + 2) / 5 + 1 }

def padded (width n : Nat) : List Char :=
  let digits := Nat.toDigits 10 n
  List.replicate (width - digits.length) '0' ++ digits

/-- Four digits; a year outside 0 to 9999 has a sign. -/
def yearChars (year : Int) : List Char :=
  let sign := if year < 0 then ['-'] else if 9999 < year then ['+'] else []
  sign ++ padded 4 year.natAbs

/-- The fewest of no, three, six and nine digits that are exact. -/
def fractionChars (nanos : Nat) : List Char :=
  if nanos = 0 then []
  else if nanos % 1000000 = 0 then '.' :: padded 3 (nanos / 1000000)
  else if nanos % 1000 = 0 then '.' :: padded 6 (nanos / 1000)
  else '.' :: padded 9 nanos

def chars (t : Instant) : List Char :=
  let second := (t.seconds.fmod 86400).toNat
  let date := Date.ofDays (t.seconds.fdiv 86400)
  yearChars date.year ++ '-' :: padded 2 date.month ++ '-' :: padded 2 date.day ++
    'T' :: padded 2 (second / 3600) ++ ':' :: padded 2 (second / 60 % 60) ++
    ':' :: padded 2 (second % 60) ++ fractionChars (t.nanos.fmod nanosPerSecond).toNat ++ ['Z']

def text (t : Instant) : String := String.ofList t.chars

end Instant

end GroupAccess
