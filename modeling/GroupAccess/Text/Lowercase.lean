import GroupAccess.Text.CaseTable

namespace GroupAccess.Text

def inRanges (ranges : List (Nat × Nat)) (c : Char) : Bool :=
  ranges.any fun (first, last) => first ≤ c.toNat && c.toNat ≤ last

/-- The lower case of a character that does not depend on its place. -/
def lowerChar (c : Char) : List Char :=
  let n := c.toNat
  if n < 128 then [c.toLower]
  else if n = 0x130 then ['i', Char.ofNat 0x307]
  else
    let covers (s : CaseTable.Shift) : Bool :=
      s.first ≤ n && n ≤ s.last && (n - s.first) % s.step == 0
    match CaseTable.shifts.find? covers with
    | some s => [Char.ofNat (n + s.shift).toNat]
    | none => [c]

/-- Whether the first character that is not looked through has a case. -/
def meetsCased (text : List Char) : Bool :=
  match text.dropWhile (inRanges CaseTable.ignorable) with
  | c :: _ => inRanges CaseTable.cased c
  | [] => false

/-- Lower case of `rest`, which follows the reversed text `before`. -/
def lowerAfter (before : List Char) : List Char → List Char
  | [] => []
  | c :: rest =>
    let atEnd := meetsCased before && !meetsCased rest
    let here := if c = 'Σ' then [if atEnd then 'ς' else 'σ'] else lowerChar c
    here ++ lowerAfter (c :: before) rest

/-- One character may become two, and a capital sigma becomes the final form at the end of a word.
-/
def lowercase (text : String) : String := String.ofList (lowerAfter [] text.toList)

/-- Lower case of the letters A to Z alone. -/
def asciiLowercase (text : String) : String := String.ofList (text.toList.map Char.toLower)

end GroupAccess.Text
