import GroupAccess.Json.Parser

namespace GroupAccess.Json

inductive Fault
  | malformed
  | mismatched
  deriving DecidableEq, Repr

/-- Reads a draft from left to right. The first fault wins: a text may stop being JSON, or a value
may have the wrong shape. -/
abbrev Decoder (α : Type) := Draft → Except Fault α

/-- The fault of a value that is not of the wanted shape. A scalar is read before it is refused,
an array or object is not. -/
def Draft.unexpected : Draft → Fault
  | .cut => .malformed
  | .number n => if n.isFinite then .mismatched else .malformed
  | .string none => .malformed
  | _ => .mismatched

def decodeString : Decoder String
  | .string (some s) => .ok s
  | d => .error d.unexpected

def decodeBool : Decoder Bool
  | .bool b => .ok b
  | d => .error d.unexpected

/-- A whole number within bounds, written without point or power of ten. -/
def decodeInt (bounds : Decimal.Bounds) : Decoder Int
  | .number n =>
    match n.int? with
    | some i => if bounds.contains i then .ok i else .error .mismatched
    | none => .error (Draft.number n).unexpected
  | d => .error d.unexpected

def decodeOption {α : Type} (decode : Decoder α) : Decoder (Option α)
  | .null => .ok none
  | d => (decode d).map some

/-- A named case, also as the only field of an object, with the value null. -/
def decodeCase {α : Type} (case? : String → Option α) : Decoder α
  | .string (some s) => (case? s).elim (.error .mismatched) .ok
  | .object ((some s, value) :: rest) =>
    match case? s, value, rest with
    | none, _, _ => .error .mismatched
    | some a, .null, [] => .ok a
    | some _, .null, _ => .error .malformed
    | some _, value, _ => .error value.unexpected
  | .object _ => .error .malformed
  | .array _ => .error .malformed
  | .cut => .error .malformed
  | .null => .error .malformed
  | .bool _ => .error .malformed
  | .number _ => .error .malformed
  | .string none => .error .malformed

/-- A field that a record knows: its value is checked when it is met. -/
structure Field where
  name : String
  check : Draft → Except Fault Unit
  /-- Whether an array may end before this field. -/
  mayEnd : Bool

def field {α : Type} (name : String) (decode : Decoder α) : Field :=
  ⟨name, fun d => (decode d).map fun _ => (), false⟩

/-- A field that an array may leave out, if it leaves out all after it too. -/
def optionalField {α : Type} (name : String) (decode : Decoder α) : Field :=
  { field name decode with mayEnd := true }

/-- The values of the known fields of a record. -/
abbrev Found := List (String × Draft)

def Found.get {α : Type} (found : Found) (name : String) (decode : Decoder α) : Except Fault α :=
  match found.lookup name with
  | some d => decode d
  | none => .error .mismatched

def Found.getD {α : Type} (found : Found) (name : String) (decode : Decoder α) (default : α) :
    Except Fault α :=
  match found.lookup name with
  | some d => decode d
  | none => .ok default

/-- Goes through the fields of an object. An unknown one must be whole and is dropped; a second
value of a known one is refused before it is looked at. -/
def collectFields (known : List Field) (found : Found) :
    List (Option String × Draft) → Except Fault Found
  | [] => .ok found
  | (none, _) :: _ => .error .malformed
  | (some name, value) :: rest =>
    match known.find? (·.name == name) with
    | none => if value.whole then collectFields known found rest else .error .malformed
    | some f =>
      if (found.lookup name).isSome then .error .mismatched
      else
        match f.check value with
        | .ok () => collectFields known (found ++ [(name, value)]) rest
        | .error e => .error e

/-- Goes through the items of an array, one for each known field. -/
def collectItems (found : Found) : List Field → List Draft → Except Fault Found
  | [], [] => .ok found
  | [], _ :: _ => .error .malformed
  | f :: fs, [] => if f.mayEnd then collectItems found fs [] else .error .mismatched
  | f :: fs, value :: rest =>
    match f.check value with
    | .ok () => collectItems (found ++ [(f.name, value)]) fs rest
    | .error e => .error e

/-- A record, written as an object or as an array of its fields in order. -/
def decodeRecord {α : Type} (known : List Field) (build : Found → Except Fault α) : Decoder α
  | .object fields => do build (← collectFields known [] fields)
  | .array items => do build (← collectItems [] known items)
  | d => .error d.unexpected

/-- The value at the head of a text, whatever comes after it. -/
def decodePrefix {α : Type} (decode : Decoder α) (bytes : List UInt8) : Except Fault α :=
  decode (Parser.parse bytes).1

/-- The only value of a text. -/
def decodeAll {α : Type} (decode : Decoder α) (bytes : List UInt8) : Except Fault α := do
  let (draft, rest) := Parser.parse bytes
  let a ← decode draft
  if (Parser.skipBlanks rest).isEmpty then .ok a else .error .malformed

end GroupAccess.Json
