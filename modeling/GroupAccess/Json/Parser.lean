import GroupAccess.Bytes.Hex
import GroupAccess.Json.Draft
import GroupAccess.Text.Basic

namespace GroupAccess.Json.Parser

def isBlank (b : UInt8) : Bool := b == 0x20 || b == 0x09 || b == 0x0a || b == 0x0d

def skipBlanks (bytes : List UInt8) : List UInt8 := bytes.dropWhile isBlank

def isDigit (b : UInt8) : Bool := 0x30 ≤ b && b ≤ 0x39

def digitsValue (bytes : List UInt8) : Nat := bytes.foldl (fun n b => n * 10 + (b.toNat - 48)) 0

def hex4? : List UInt8 → Option (Nat × List UInt8)
  | a :: b :: c :: d :: rest => do
    let a ← Hex.value? (Char.ofNat a.toNat)
    let b ← Hex.value? (Char.ofNat b.toNat)
    let c ← Hex.value? (Char.ofNat c.toNat)
    let d ← Hex.value? (Char.ofNat d.toNat)
    return (((a * 16 + b) * 16 + c) * 16 + d, rest)
  | _ => none

/-- A byte that is written after a backslash and what it stands for. -/
def simpleEscape? (b : UInt8) : Option UInt8 :=
  match Char.ofNat b.toNat with
  | '"' => some 0x22
  | '\\' => some 0x5c
  | '/' => some 0x2f
  | 'b' => some 0x08
  | 'f' => some 0x0c
  | 'n' => some 0x0a
  | 'r' => some 0x0d
  | 't' => some 0x09
  | _ => none

def isLeading (n : Nat) : Bool := 0xd800 ≤ n && n < 0xdc00

def isTrailing (n : Nat) : Bool := 0xdc00 ≤ n && n < 0xe000

def utf8Char (n : Nat) : List UInt8 := utf8 (String.singleton (Char.ofNat n))

/-- One piece of a string: its end, bytes of its text, or an escape that stands for no text. -/
inductive Piece
  | close
  | bytes (bs : List UInt8)
  | unpaired

/-- The character of an escape `\u`, read after its first code unit `n`: two surrogates make one
character, and an unpaired one makes none. -/
def unicodePiece (n : Nat) (rest : List UInt8) : Piece × List UInt8 :=
  if isLeading n then
    match rest with
    | 0x5c :: 0x75 :: tail =>
      match hex4? tail with
      | some (m, after) =>
        if isTrailing m then
          (.bytes (utf8Char (0x10000 + (n - 0xd800) * 0x400 + (m - 0xdc00))), after)
        else (.unpaired, rest)
      | none => (.unpaired, rest)
    | _ => (.unpaired, rest)
  else if isTrailing n then (.unpaired, rest)
  else (.bytes (utf8Char n), rest)

/-- The next piece of a string; `none` where no string can go on. -/
def piece? : List UInt8 → Option (Piece × List UInt8)
  | [] => none
  | b :: rest =>
    if b = 0x22 then some (.close, rest)
    else if b = 0x5c then
      match rest with
      | [] => none
      | e :: rest =>
        if e = 0x75 then (hex4? rest).map fun (n, rest) => unicodePiece n rest
        else (simpleEscape? e).map fun b => (.bytes [b], rest)
    else if b < 0x20 then none
    else some (.bytes [b], rest)

/-- The rest of a string after its opening quote. The bytes so far are kept in reverse, and
`sound` tells whether every escape stood for text. -/
def stringAfter (fuel : Nat) (sound : Bool) (done : List UInt8) (bytes : List UInt8) :
    Option (Option String × List UInt8) :=
  match fuel with
  | 0 => none
  | fuel + 1 =>
    match piece? bytes with
    | none => none
    | some (.close, rest) => some (if sound then ofUtf8? done.reverse else none, rest)
    | some (.bytes bs, rest) => stringAfter fuel sound (bs.reverse ++ done) rest
    | some (.unpaired, rest) => stringAfter fuel false done rest

def string? (bytes : List UInt8) : Option (Option String × List UInt8) :=
  stringAfter (bytes.length + 1) true [] bytes

/-- The digits before the point: no zero comes first but a single one. -/
def wholeDigits? (bytes : List UInt8) : Option (List UInt8 × List UInt8) :=
  let digits := bytes.takeWhile isDigit
  let rest := bytes.dropWhile isDigit
  match digits with
  | [] => none
  | 0x30 :: _ :: _ => none
  | _ => some (digits, rest)

/-- The digits after a point; none if there is no point. -/
def fraction? (bytes : List UInt8) : Option (Option (List UInt8) × List UInt8) :=
  match bytes with
  | 0x2e :: rest =>
    let digits := rest.takeWhile isDigit
    if digits.isEmpty then none else some (some digits, rest.dropWhile isDigit)
  | _ => some (none, bytes)

/-- The power of ten after `e` or `E`; none if there is none. -/
def exponent? (bytes : List UInt8) : Option (Option Int × List UInt8) :=
  match bytes with
  | [] => some (none, [])
  | b :: rest =>
    if b = 0x65 ∨ b = 0x45 then
      let (negative, rest) :=
        match rest with
        | 0x2b :: rest => (false, rest)
        | 0x2d :: rest => (true, rest)
        | rest => (false, rest)
      let digits := rest.takeWhile isDigit
      if digits.isEmpty then none
      else
        let n : Int := digitsValue digits
        some (some (if negative then -n else n), rest.dropWhile isDigit)
    else some (none, bytes)

def number? (bytes : List UInt8) : Option (Numeral × List UInt8) := do
  let (negative, bytes) :=
    match bytes with
    | 0x2d :: rest => (true, rest)
    | bytes => (false, bytes)
  let (digits, bytes) ← wholeDigits? bytes
  let (fraction, bytes) ← fraction? bytes
  let (exponent, bytes) ← exponent? bytes
  let after := fraction.getD []
  return ({ negative, digits := digitsValue (digits ++ after)
            exponent := exponent.getD 0 - after.length
            plain := fraction.isNone && exponent.isNone }, bytes)

/-- The rest of a text that begins with `word`. -/
def after? (word : List UInt8) (bytes : List UInt8) : Option (List UInt8) :=
  if word.isPrefixOf bytes then some (bytes.drop word.length) else none

def literal (word : List UInt8) (d : Draft) (bytes : List UInt8) : Draft × List UInt8 :=
  match after? word bytes with
  | some rest => (d, rest)
  | none => (.cut, [])

/-- A value that is no array or object, by its first byte. -/
def scalar (bytes : List UInt8) : Draft × List UInt8 :=
  match bytes with
  | [] => (.cut, [])
  | b :: rest =>
    if b = 0x22 then
      match string? rest with
      | some (s, rest) => (.string s, rest)
      | none => (.cut, [])
    else if b = 0x6e then literal [0x6e, 0x75, 0x6c, 0x6c] .null bytes
    else if b = 0x74 then literal [0x74, 0x72, 0x75, 0x65] (.bool true) bytes
    else if b = 0x66 then literal [0x66, 0x61, 0x6c, 0x73, 0x65] (.bool false) bytes
    else if b = 0x2d ∨ isDigit b then
      match number? bytes with
      | some (n, rest) => (.number n, rest)
      | none => (.cut, [])
    else (.cut, [])

/-- The name of a field with the colon after it. -/
def name? (bytes : List UInt8) : Option (Option String × List UInt8) :=
  match skipBlanks bytes with
  | 0x22 :: rest => string? rest
  | _ => none

def colon? (bytes : List UInt8) : Option (List UInt8) :=
  match skipBlanks bytes with
  | 0x3a :: rest => some rest
  | _ => none

mutual

def value (fuel : Nat) (bytes : List UInt8) : Draft × List UInt8 :=
  match fuel with
  | 0 => (.cut, [])
  | fuel + 1 =>
    match skipBlanks bytes with
    | 0x5b :: rest =>
      match skipBlanks rest with
      | 0x5d :: rest => (.array [], rest)
      | rest =>
        let (items, rest) := items fuel rest
        (.array items, rest)
    | 0x7b :: rest =>
      match skipBlanks rest with
      | 0x7d :: rest => (.object [], rest)
      | rest =>
        let (fields, rest) := fields fuel rest
        (.object fields, rest)
    | bytes => scalar bytes

/-- One item and those after it, up to the closing bracket. -/
def items (fuel : Nat) (bytes : List UInt8) : List Draft × List UInt8 :=
  match fuel with
  | 0 => ([.cut], [])
  | fuel + 1 =>
    let (item, rest) := value fuel bytes
    match skipBlanks rest with
    | 0x2c :: rest =>
      let (more, rest) := items fuel rest
      (item :: more, rest)
    | 0x5d :: rest => ([item], rest)
    | _ => ([item, .cut], [])

/-- One field and those after it, up to the closing brace. -/
def fields (fuel : Nat) (bytes : List UInt8) : List (Option String × Draft) × List UInt8 :=
  match fuel with
  | 0 => ([(none, .cut)], [])
  | fuel + 1 =>
    match name? bytes with
    | none => ([(none, .cut)], [])
    | some (name, rest) =>
      match colon? rest with
      | none => ([(name, .cut)], [])
      | some rest =>
        let (value, rest) := value fuel rest
        match skipBlanks rest with
        | 0x2c :: rest =>
          let (more, rest) := fields fuel rest
          ((name, value) :: more, rest)
        | 0x7d :: rest => ([(name, value)], rest)
        | _ => ([(name, value), (none, .cut)], [])

end

/-- The value at the head of a text and the text after it. Reading never fails: the draft is cut
where the text is no JSON. -/
def parse (bytes : List UInt8) : Draft × List UInt8 := value (2 * bytes.length + 2) bytes

end GroupAccess.Json.Parser
