import GroupAccess.Domain.Direction
import GroupAccess.Domain.MappingTable
import GroupAccess.Domain.Punycode
import GroupAccess.Text.Compose

namespace GroupAccess.Domain

inductive Treatment
  | keep
  | replace (cs : List Char)
  | refuse
  deriving DecidableEq, Repr

/-- What stands for a character of a run. -/
def runValue? (n : Nat) : List Nat → Option Nat
  | [first, last, step, value] =>
    if first ≤ n ∧ n ≤ last ∧ (n - first) % step = 0 then some (value + (n - first)) else none
  | _ => none

/-- Characters are kept, left out, replaced, or refused. -/
def treatment (c : Char) : Treatment :=
  let n := c.toNat
  if NumberTable.contains MappingTable.kept n then .keep
  else if NumberTable.contains MappingTable.dropped n then .replace []
  else
    match MappingTable.runs.findSome? (runValue? n) with
    | some m => .replace [Char.ofNat m]
    | none =>
      match MappingTable.replaced.lookup n with
      | some ms => .replace (ms.map Char.ofNat)
      | none => .refuse

def isKept (c : Char) : Bool := treatment c == .keep

/-- The text that is looked up; none if a character is refused. -/
def mapped? : List Char → Option (List Char)
  | [] => some []
  | c :: rest =>
    match treatment c with
    | .keep => (mapped? rest).map (c :: ·)
    | .replace cs => (mapped? rest).map (cs ++ ·)
    | .refuse => none

/-- The beginning of a label that is encoded. -/
def encodedMark : List Char := ['x', 'n', '-', '-']

/-- A label without a mark in front and without characters that are not kept. -/
def isSound (label : List Char) : Bool := !label.head?.any Text.isMark && label.all isKept

/-- The text of a label, decoded where it is encoded; none if it is not sound. -/
def labelText? (label : List Char) : Option (List Char) :=
  match Text.after? encodedMark label with
  | some code => (Punycode.decode? code).filter fun text => Text.isComposed text && isSound text
  | none => if isSound label then some label else none

def asciiLabel (label : List Char) : List Char :=
  if label.all Punycode.isAscii then label else encodedMark ++ Punycode.encode label

/-- A name in ASCII; none if it cannot be looked up. -/
def toAscii? (name : List Char) : Option (List Char) := do
  let mapped ← mapped? name
  let labels ← (Text.split '.' (Text.compose mapped)).mapM labelText?
  if labels.any turns && !labels.all isUniform then none
  else some (Text.join '.' (labels.map asciiLabel))

end GroupAccess.Domain
