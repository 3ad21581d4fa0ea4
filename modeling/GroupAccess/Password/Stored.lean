import GroupAccess.Bytes.Base64
import GroupAccess.Decimal.Reading
import GroupAccess.Text.Basic

namespace GroupAccess.Password

/-- The parts of `$algorithm$v=version$name=value,...$salt$output`, each after the algorithm
optional. The output is unpadded base64; the salt is kept as text. -/
structure Stored where
  algorithm : List Char
  version : Option Nat
  params : List (List Char × List Char)
  salt : Option (List Char)
  output : Option (List UInt8)
  deriving DecidableEq, Repr

namespace Stored

def isNameChar (c : Char) : Bool := ('a' ≤ c && c ≤ 'z') || ('0' ≤ c && c ≤ '9') || c == '-'

def isValueChar (c : Char) : Bool :=
  ('a' ≤ c && c ≤ 'z') || ('A' ≤ c && c ≤ 'Z') || ('0' ≤ c && c ≤ '9') ||
    c == '+' || c == '/' || c == '.' || c == '-'

def isName (cs : List Char) : Bool := !cs.isEmpty && cs.length ≤ 32 && cs.all isNameChar

def isValue (cs : List Char) : Bool := cs.length ≤ 64 && cs.all isValueChar

/-- A number of 32 bits without leading zeros. -/
def decimal? (cs : List Char) : Option Nat :=
  if cs.isEmpty || !cs.all Decimal.isDigit || (cs.head? == some '0' && cs.length > 1) then none
  else if Decimal.value cs < 4294967296 then some (Decimal.value cs) else none

def param? (cs : List Char) : Option (List Char × List Char) :=
  match Text.split '=' cs with
  | [name, value] => if isName name && isValue value then some (name, value) else none
  | _ => none

def params? (cs : List Char) : Option (List (List Char × List Char)) :=
  if cs.length > 127 then none else (Text.split ',' cs).mapM param?

def salt? (cs : List Char) : Option (List Char) :=
  if 4 ≤ cs.length ∧ isValue cs then some cs else none

def output? (cs : List Char) : Option (List UInt8) := do
  let bytes ← Base64.decode? Base64.standard cs
  if 10 ≤ bytes.length ∧ bytes.length ≤ 64 then some bytes else none

/-- A version field is `v=` and a number; a comma makes it parameters. -/
def takeVersion : List (List Char) → Option (Option Nat × List (List Char))
  | ('v' :: '=' :: number) :: rest =>
    if ',' ∈ number then some (none, ('v' :: '=' :: number) :: rest)
    else if isValue number then (decimal? number).map fun v => (some v, rest)
    else none
  | fields => some (none, fields)

/-- A field with an equals sign holds parameters. -/
def takeParams : List (List Char) → Option (List (List Char × List Char) × List (List Char))
  | field :: rest => if '=' ∈ field then (params? field).map (·, rest) else some ([], field :: rest)
  | [] => some ([], [])

def parse? (text : List Char) : Option Stored :=
  match Text.split '$' text with
  | [] :: algorithm :: fields => do
    guard (isName algorithm)
    let (version, fields) ← takeVersion fields
    let (params, fields) ← takeParams fields
    match fields with
    | [] => return ⟨algorithm, version, params, none, none⟩
    | [salt] => return ⟨algorithm, version, params, some (← salt? salt), none⟩
    | [salt, output] =>
      return ⟨algorithm, version, params, some (← salt? salt), some (← output? output)⟩
    | _ => none
  | _ => none

def renderParam (p : List Char × List Char) : List Char := p.1 ++ '=' :: p.2

def render (s : Stored) : List Char :=
  let version :=
    match s.version with
    | some v => [['v', '='] ++ Nat.toDigits 10 v]
    | none => []
  let params := if s.params.isEmpty then [] else [Text.join ',' (s.params.map renderParam)]
  let output := s.output.toList.map (Base64.encode Base64.standard)
  Text.join '$' ([] :: s.algorithm :: (version ++ params ++ s.salt.toList ++ output))

end Stored

end GroupAccess.Password
