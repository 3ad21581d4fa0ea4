import GroupAccess.Decimal.Reading

namespace GroupAccess.Json

/-- A number as it is written: `digits` times ten to the power `exponent`. -/
structure Numeral where
  negative : Bool
  digits : Nat
  exponent : Int
  /-- Neither a point nor a power of ten is written. -/
  plain : Bool
  deriving DecidableEq, Repr

namespace Numeral

/-- The whole number that is written; a negative zero is none. -/
def int? (n : Numeral) : Option Int :=
  if n.plain then
    if n.negative then if n.digits = 0 then none else some (-(n.digits : Int)) else some n.digits
  else none

def toFloat (n : Numeral) : Float :=
  let x := Decimal.ofScientific n.digits n.exponent
  if n.negative then -x else x

/-- Whether the number is not beyond all floating-point numbers. -/
def isFinite (n : Numeral) : Bool := n.toFloat.isFinite

end Numeral

/-- What a text holds up to the place where it stops being JSON. A reader that goes through a draft
from left to right meets that place exactly when it gets there. `none` stands for a string whose
bytes and escapes are no text. -/
inductive Draft
  | cut
  | null
  | bool (b : Bool)
  | number (n : Numeral)
  | string (s : Option String)
  | array (items : List Draft)
  | object (fields : List (Option String × Draft))
  deriving Repr

namespace Draft

mutual

/-- Whether nothing is cut off. -/
def whole : Draft → Bool
  | .cut => false
  | .array items => wholeItems items
  | .object fields => wholeFields fields
  | _ => true

def wholeItems : List Draft → Bool
  | [] => true
  | item :: rest => item.whole && wholeItems rest

def wholeFields : List (Option String × Draft) → Bool
  | [] => true
  | (_, value) :: rest => value.whole && wholeFields rest

end

mutual

/-- Whether a draft holds a value at most `depth` deep, all numbers and strings of which are
sound. -/
def readable (depth : Nat) : Draft → Bool
  | .cut => false
  | .null => true
  | .bool _ => true
  | .number n => n.isFinite
  | .string s => s.isSome
  | .array items => match depth with
    | 0 => false
    | depth + 1 => readableItems depth items
  | .object fields => match depth with
    | 0 => false
    | depth + 1 => readableFields depth fields

def readableItems (depth : Nat) : List Draft → Bool
  | [] => true
  | item :: rest => item.readable depth && readableItems depth rest

def readableFields (depth : Nat) : List (Option String × Draft) → Bool
  | [] => true
  | (name, value) :: rest => name.isSome && value.readable depth && readableFields depth rest

end

end Draft

end GroupAccess.Json
