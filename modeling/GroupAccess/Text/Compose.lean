import GroupAccess.Text.ComposeTable

namespace GroupAccess.Text

/-- The combining class; zero for a character that marks do not pass. -/
def combiningClass (c : Char) : Nat :=
  ((NumberTable.range? ComposeTable.classes c.toNat).map (·.value)).getD 0

def isMark (c : Char) : Bool := NumberTable.contains ComposeTable.marks c.toNat

/-- Hangul syllables are counted by their leading, vowel and trailing letter. -/
def hangulBase : Nat := 0xac00

def leadingBase : Nat := 0x1100

def vowelBase : Nat := 0x1161

/-- The trailing letter zero is none. -/
def trailingBase : Nat := 0x11a7

def leadingCount : Nat := 19

def vowelCount : Nat := 21

def trailingCount : Nat := 28

def isSyllable (n : Nat) : Bool :=
  hangulBase ≤ n && n < hangulBase + leadingCount * vowelCount * trailingCount

/-- The two characters of which one is made. -/
def parts? (c : Char) : Option (Char × Char) :=
  if isSyllable c.toNat then
    let n := c.toNat - hangulBase
    let trailing := n % trailingCount
    if trailing = 0 then
      some (Char.ofNat (leadingBase + n / (vowelCount * trailingCount)),
        Char.ofNat (vowelBase + n / trailingCount % vowelCount))
    else some (Char.ofNat (c.toNat - trailing), Char.ofNat (trailingBase + trailing))
  else
    match ComposeTable.pairs.lookup c.toNat with
    | some [a, b] => some (Char.ofNat a, Char.ofNat b)
    | _ => none

/-- The character that is made of two. -/
def joined? (a b : Char) : Option Char :=
  let m := a.toNat
  let n := b.toNat
  if leadingBase ≤ m && m < leadingBase + leadingCount && vowelBase ≤ n &&
      n < vowelBase + vowelCount then
    some (Char.ofNat
      (hangulBase + ((m - leadingBase) * vowelCount + (n - vowelBase)) * trailingCount))
  else if isSyllable m && (m - hangulBase) % trailingCount == 0 && trailingBase < n &&
      n < trailingBase + trailingCount then
    some (Char.ofNat (m + (n - trailingBase)))
  else (ComposeTable.pairs.find? fun p => p.2 == [m, n]).map fun p => Char.ofNat p.1

/-- Takes a character apart, and its first part in turn, `depth` times. -/
def apart (depth : Nat) (c : Char) : List Char :=
  match depth with
  | 0 => [c]
  | depth + 1 =>
    match parts? c with
    | some (a, b) => apart depth a ++ [b]
    | none => [c]

/-- No character has more parts than these. -/
def maxParts : Nat := 4

/-- Puts a mark before the first one that does not have a lower class. -/
def insertMark (mark : Char) : List Char → List Char
  | [] => [mark]
  | c :: rest =>
    if combiningClass c ≠ 0 ∧ combiningClass c < combiningClass mark then
      c :: insertMark mark rest
    else mark :: c :: rest

/-- The marks between two other characters by class; marks of one class stay in their order. -/
def orderMarks (text : List Char) : List Char :=
  text.foldr (fun c rest => if combiningClass c = 0 then c :: rest else insertMark c rest) []

/-- Joins what follows to `base`. Marks that stay are kept in reverse; one of the same or a higher
class keeps a mark from reaching the base. -/
def joinFrom (base : Char) (marks : List Char) : List Char → List Char
  | [] => base :: marks.reverse
  | c :: rest =>
    let reaches := marks.head?.all fun mark => combiningClass mark < combiningClass c
    match if reaches then joined? base c else none with
    | some whole => joinFrom whole marks rest
    | none =>
      if combiningClass c = 0 then base :: (marks.reverse ++ joinFrom c [] rest)
      else joinFrom base (c :: marks) rest

/-- Characters are taken apart, marks on the same base are put in order, and what can be written as
one character is. -/
def compose (text : List Char) : List Char :=
  match orderMarks (text.flatMap (apart maxParts)) with
  | [] => []
  | c :: rest => joinFrom c [] rest

def isComposed (text : List Char) : Bool := compose text == text

end GroupAccess.Text
