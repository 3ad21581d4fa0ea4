import GroupAccess.Bytes.Hex
import GroupAccess.Text.Basic

namespace GroupAccess.NumberTable

def number (digits : List Char) : Nat :=
  digits.foldl (fun n c => n * 16 + (Hex.value? c).getD 0) 0

/-- Blanks stand between records and commas between the hexadecimal numbers of a record. -/
def records (lines : List String) : List (List Nat) :=
  lines.flatMap fun line =>
    (Text.split ' ' line.toList).map fun record => (Text.split ',' record).map number

def entriesFrom (next : Nat) : List (List Nat) → List (Nat × List Nat)
  | (gap :: values) :: rest => (next + gap, values) :: entriesFrom (next + gap + 1) rest
  | _ => []

/-- Records of a gap and the values at the place behind it. -/
def entries (lines : List String) : List (Nat × List Nat) := entriesFrom 0 (records lines)

/-- The numbers from `first` to `last` and a value that they share. -/
structure Range where
  first : Nat
  last : Nat
  value : Nat
  deriving DecidableEq, Repr

def rangesFrom (next : Nat) : List (List Nat) → List Range
  | (gap :: size :: value) :: rest =>
    ⟨next + gap, next + gap + size - 1, value.headD 0⟩ :: rangesFrom (next + gap + size) rest
  | _ => []

/-- Records of a gap, a size and possibly a value. -/
def ranges (lines : List String) : List Range := rangesFrom 0 (records lines)

/-- The range around a number. -/
def range? (table : List Range) (n : Nat) : Option Range :=
  table.find? fun r => r.first ≤ n && n ≤ r.last

def contains (table : List Range) (n : Nat) : Bool := (range? table n).isSome

end GroupAccess.NumberTable
