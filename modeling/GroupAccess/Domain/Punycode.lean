import GroupAccess.Text.Basic

/-!
Text in the letters, digits and hyphens of domain names. The ASCII characters come first; all
others follow as the gaps between them in order of code point and place, each gap a number with
digits of varying weight.
-/

namespace GroupAccess.Domain.Punycode

def digitChar (d : Nat) : Char := if d < 26 then Char.ofNat (97 + d) else Char.ofNat (22 + d)

def digit? (c : Char) : Option Nat :=
  let n := c.toNat
  if 97 ≤ n ∧ n ≤ 122 then some (n - 97)
  else if 65 ≤ n ∧ n ≤ 90 then some (n - 65)
  else if 48 ≤ n ∧ n ≤ 57 then some (n - 22)
  else none

/-- A digit below this one is the last of its number. -/
def threshold (bias place : Nat) : Nat :=
  if place ≤ bias then 1 else if bias + 26 ≤ place then 26 else place - bias

theorem one_le_threshold (bias place : Nat) : 1 ≤ threshold bias place := by
  unfold threshold
  split
  · omega
  · split <;> omega

/-- The bias that suits gaps of a size. -/
def settle (gap : Nat) : Nat :=
  if 455 < gap then 36 + settle (gap / 35) else 36 * gap / (gap + 38)
termination_by gap

/-- The bias after a gap, when `count` characters are written. -/
def adapt (gap count : Nat) (isFirst : Bool) : Nat :=
  let gap := if isFirst then gap / 700 else gap / 2
  settle (gap + gap / count)

def firstBias : Nat := 72

/-- The first code point outside ASCII. -/
def firstPoint : Nat := 128

def isAscii (c : Char) : Bool := c.toNat < firstPoint

/-- The digits of a number, the least first. -/
def digits (bias place n : Nat) : List Char :=
  let t := threshold bias place
  if n < t then [digitChar n]
  else digitChar (t + (n - t) % (36 - t)) :: digits bias (place + 36) ((n - t) / (36 - t))
termination_by n
decreasing_by
  have := one_le_threshold bias place
  have := Nat.div_le_self (n - threshold bias place) (36 - threshold bias place)
  omega

/-- What is written so far. -/
structure Progress where
  written : List Char := []
  /-- Places passed since the last character. -/
  gap : Nat := 0
  bias : Nat := firstBias
  count : Nat
  isFirst : Bool := true

/-- Passes a character of the text when those with code point `point` are written. -/
def Progress.pass (point : Nat) (p : Progress) (c : Char) : Progress :=
  if c.toNat < point then { p with gap := p.gap + 1 }
  else if c.toNat = point then
    { written := p.written ++ digits p.bias 36 p.gap, gap := 0
      bias := adapt p.gap (p.count + 1) p.isFirst, count := p.count + 1, isFirst := false }
  else p

/-- Writes the characters of the given code points; those below `next` are written. -/
def writePoints (text : List Char) (next : Nat) (p : Progress) : List Nat → Progress
  | [] => p
  | point :: rest =>
    let p := { p with gap := p.gap + (point - next) * (p.count + 1) }
    let p := text.foldl (Progress.pass point) p
    writePoints text (point + 1) { p with gap := p.gap + 1 } rest

def encode (text : List Char) : List Char :=
  let ascii := text.filter isAscii
  let points := ((text.filter fun c => !isAscii c).map Char.toNat).mergeSort.eraseDups
  let p := writePoints text firstPoint { count := ascii.length } points
  (if ascii.isEmpty then [] else ascii ++ ['-']) ++ p.written

/-- Reads a number and adds it to `n`; its next digit has the weight `weight`. -/
def number? (bias place weight n : Nat) : List Char → Option (Nat × List Char)
  | [] => none
  | c :: rest => do
    let d ← digit? c
    let t := threshold bias place
    if d < t then some (n + d * weight, rest)
    else number? bias (place + 36) (weight * (36 - t)) (n + d * weight) rest

theorem length_of_number? {bias place weight n : Nat} {text rest : List Char} {m : Nat}
    (h : number? bias place weight n text = some (m, rest)) : rest.length < text.length := by
  induction text generalizing place weight n with
  | nil => simp [number?] at h
  | cons c cs ih =>
    simp only [number?] at h
    cases hd : digit? c with
    | none => simp [hd] at h
    | some d =>
      simp only [hd, Option.bind_eq_bind, Option.bind_some] at h
      split at h
      · simp only [Option.some.injEq, Prod.mk.injEq] at h
        simp [← h.2]
      · have := ih h
        simp only [List.length_cons]
        omega

def isScalar (n : Nat) : Bool := n < 0xd800 || (0xdfff < n && n < 0x110000)

/-- Puts the rest of the characters into `text`; the next one has at least the code point `point`
and, if it has that one, stands at `place` or behind it. -/
def insertAll (bias point place : Nat) (isFirst : Bool) (text : List Char) (code : List Char) :
    Option (List Char) :=
  match code with
  | [] => some text
  | c :: cs =>
    match _h : number? bias 36 1 place (c :: cs) with
    | none => none
    | some (n, rest) =>
      let size := text.length + 1
      let point := point + n / size
      if isScalar point then
        insertAll (adapt (n - place) size isFirst) point (n % size + 1) false
          (text.insertIdx (n % size) (Char.ofNat point)) rest
      else none
termination_by code.length
decreasing_by exact length_of_number? _h

/-- The ASCII characters before the last hyphen and the numbers after it. A hyphen in front is no
such sign. -/
def cut (code : List Char) : List Char × List Char :=
  match Text.cutLast? '-' code with
  | some (ascii, numbers) => if ascii.isEmpty then ([], code) else (ascii, numbers)
  | none => ([], code)

def decode? (code : List Char) : Option (List Char) :=
  let (ascii, numbers) := cut code
  if ascii.all isAscii then insertAll firstBias firstPoint 0 true ascii numbers else none

end GroupAccess.Domain.Punycode
