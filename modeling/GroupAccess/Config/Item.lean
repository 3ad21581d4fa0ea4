import GroupAccess.Decimal.Reading
import GroupAccess.Decimal.Shortest
import GroupAccess.Text.Lowercase

namespace GroupAccess

inductive Item
  | null
  | bool (b : Bool)
  | int (n : Int)
  | float (x : Float)
  | text (s : String)
  | list (items : List Item)
  | table (fields : List (String × Item))

namespace Item

/-- The whole numbers that an item holds as such. -/
def bounds : Decimal.Bounds := .signed 64

def text? : Item → Option String
  | text s => some s
  | bool b => some (if b then "true" else "false")
  | int n => some (toString n)
  | float x => some (Decimal.shortest x)
  | null => none
  | list _ => none
  | table _ => none

/-- Words for one and for zero. -/
def wordNumber? (word : String) : Option Nat :=
  if ["true", "on", "yes"].contains word then some 1
  else if ["false", "off", "no"].contains word then some 0
  else none

/-- A single value as a number; one with a fraction is rounded, half away from zero. -/
def number? : Item → Option Nat
  | int n => if 0 ≤ n then some n.toNat else none
  | bool b => some b.toNat
  | float x => some x.round.toUInt64.toNat
  | text s =>
    match wordNumber? (Text.lowercase s) with
    | some n => some n
    | none => (Decimal.readWhole (.unsigned 64) s).toOption.map Int.toNat
  | null => none
  | list _ => none
  | table _ => none

/-- Sets the first field of a name, or adds one. -/
def setField (fields : List (String × Item)) (name : String) (item : Item) :
    List (String × Item) :=
  match fields with
  | [] => [(name, item)]
  | (n, old) :: rest =>
    if n = name then (n, item) :: rest else (n, old) :: setField rest name item

end Item

end GroupAccess
