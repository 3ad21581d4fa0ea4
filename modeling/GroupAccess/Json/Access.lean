import GroupAccess.Json.Draft
import GroupAccess.Json.Value

namespace GroupAccess.Json.Draft

/-- The first value of a name. -/
def field? (d : Draft) (name : String) : Option Draft :=
  match d with
  | .object fields => fields.lookup (some name)
  | _ => none

def get (d : Draft) (name : String) : Draft := (d.field? name).getD .null

def string? : Draft → Option String
  | .string s => s
  | _ => none

def int? : Draft → Option Int
  | .number n => n.int?
  | _ => none

def items : Draft → List Draft
  | .array items => items
  | _ => []

/-- What is missing or of another shape is empty, zero or false. -/
def stringAt (d : Draft) (name : String) : String := ((d.get name).string?).getD ""

def intAt (d : Draft) (name : String) : Int := ((d.get name).int?).getD 0

def boolAt (d : Draft) (name : String) : Bool :=
  match d.get name with
  | .bool b => b
  | _ => false

mutual

/-- The value of a draft; a number counts without its power of ten, and what is cut off or no
text is null or empty. -/
def value : Draft → Json
  | .cut => .null
  | .null => .null
  | .bool b => .bool b
  | .number n => .int (if n.negative then -n.digits else n.digits)
  | .string s => .string (s.getD "")
  | .array items => .array (values items)
  | .object fields => .object (namedValues fields)

def values : List Draft → List Json
  | [] => []
  | d :: rest => d.value :: values rest

def namedValues : List (Option String × Draft) → List (String × Json)
  | [] => []
  | (name, d) :: rest => (name.getD "", d.value) :: namedValues rest

end

end GroupAccess.Json.Draft

namespace GroupAccess.Json

def Numeral.text (n : Numeral) : String :=
  (if n.negative then "-" else "") ++ toString n.digits ++
    (if n.plain then "" else "e" ++ toString n.exponent)

namespace Draft

mutual

/-- The compact text of a draft without cuts. -/
def text : Draft → String
  | .number n => n.text
  | .array items => "[" ++ ",".intercalate (texts items) ++ "]"
  | .object fields => "\x7b" ++ ",".intercalate (namedTexts fields) ++ "\x7d"
  | d => d.value.text

def texts : List Draft → List String
  | [] => []
  | d :: rest => d.text :: texts rest

def namedTexts : List (Option String × Draft) → List String
  | [] => []
  | (name, d) :: rest => ((Json.string (name.getD "")).text ++ ":" ++ d.text) :: namedTexts rest

end

end Draft

end GroupAccess.Json
