import GroupAccess.Domain.DirectionTable

namespace GroupAccess.Domain

inductive Direction
  | left
  | right
  | arabicNumber
  | europeanNumber
  | neutral
  | mark
  | other
  deriving DecidableEq, Repr

namespace Direction

def ofChar (c : Char) : Direction :=
  match (NumberTable.range? DirectionTable.classes c.toNat).map (·.value) with
  | none => left
  | some 1 => right
  | some 2 => arabicNumber
  | some 3 => europeanNumber
  | some 4 => neutral
  | some 5 => mark
  | some _ => other

/-- Whether a class makes a name one with parts from right to left. -/
def turns (d : Direction) : Bool := d == right || d == arabicNumber

/-- The class before the marks at the end. -/
def last? (ds : List Direction) : Option Direction := (ds.reverse.dropWhile (· == mark)).head?

def mayStandLeft (d : Direction) : Bool :=
  d == left || d == europeanNumber || d == neutral || d == mark

def mayStandRight (d : Direction) : Bool :=
  d == right || d == arabicNumber || d == europeanNumber || d == neutral || d == mark

/-- Whether a label keeps to one direction. -/
def isUniform (ds : List Direction) : Bool :=
  match ds with
  | [] => true
  | left :: rest =>
    rest.all mayStandLeft &&
      match last? ds with
      | some d => d == left || d == europeanNumber
      | none => true
  | right :: rest =>
    rest.all mayStandRight &&
      (match last? ds with
      | some d => d == right || d == europeanNumber || d == arabicNumber
      | none => false) &&
      !(rest.contains europeanNumber && rest.contains arabicNumber)
  | _ => false

end Direction

/-- Whether a label has a part that is written from right to left. -/
def turns (label : List Char) : Bool := label.any fun c => (Direction.ofChar c).turns

def isUniform (label : List Char) : Bool := Direction.isUniform (label.map Direction.ofChar)

end GroupAccess.Domain
