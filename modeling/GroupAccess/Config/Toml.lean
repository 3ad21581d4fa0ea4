import GroupAccess.Bytes.Hex
import GroupAccess.Config.Item
import GroupAccess.Text.Basic

namespace GroupAccess.Toml

abbrev Fields := List (String × Item)

def isSpace (c : Char) : Bool := c == ' ' || c == '\t'

def skipSpaces (cs : List Char) : List Char := cs.dropWhile isSpace

def skipComment (cs : List Char) : List Char :=
  if cs.head? = some '#' then cs.dropWhile (· != '\n') else cs

/-- Skips blanks, comments and line ends. -/
def skipLines (fuel : Nat) (cs : List Char) : List Char :=
  match fuel, skipComment (skipSpaces cs) with
  | fuel + 1, '\n' :: rest => skipLines fuel rest
  | _, cs => cs

def lineEnd? (cs : List Char) : Option (List Char) :=
  match skipComment (skipSpaces cs) with
  | [] => some []
  | '\n' :: rest => some rest
  | _ => none

def isControl (c : Char) : Bool := (c.toNat < 32 && c != '\t') || c.toNat == 127

/-- The character that `size` hexadecimal digits stand for. -/
def codePoint? (size : Nat) (cs : List Char) : Option (Char × List Char) :=
  let digits := cs.take size
  let n := digits.foldl (fun n c => n * 16 + (Hex.value? c).getD 0) 0
  if digits.length = size ∧ digits.all (fun c => (Hex.value? c).isSome) ∧
      (n < 0xd800 ∨ (0xdfff < n ∧ n < 0x110000)) then
    some (Char.ofNat n, cs.drop size)
  else none

/-- What an escape stands for, read after its backslash. -/
def escape? : List Char → Option (Char × List Char)
  | 'b' :: rest => some ('\x08', rest)
  | 't' :: rest => some ('\t', rest)
  | 'n' :: rest => some ('\n', rest)
  | 'f' :: rest => some ('\x0c', rest)
  | 'r' :: rest => some ('\r', rest)
  | '"' :: rest => some ('"', rest)
  | '\\' :: rest => some ('\\', rest)
  | 'u' :: rest => codePoint? 4 rest
  | 'U' :: rest => codePoint? 8 rest
  | _ => none

/-- The rest of a string on one line, after its opening quote. -/
def basicString? (fuel : Nat) (done : List Char) : List Char → Option (String × List Char)
  | '"' :: rest => some (String.ofList done.reverse, rest)
  | '\\' :: rest =>
    match fuel, escape? rest with
    | fuel + 1, some (c, rest) => basicString? fuel (c :: done) rest
    | _, _ => none
  | c :: rest =>
    match fuel with
    | fuel + 1 => if isControl c then none else basicString? fuel (c :: done) rest
    | 0 => none
  | [] => none

def literalString? (cs : List Char) : Option (String × List Char) :=
  let text := cs.takeWhile fun c => c != '\x27' && !isControl c
  match cs.drop text.length with
  | '\x27' :: rest => some (String.ofList text, rest)
  | _ => none

/-- The text after a closing delimiter of three quotes; up to two more before it are text. -/
def closing? (quote : Char) (cs : List Char) : Option (Nat × List Char) :=
  let count := (cs.takeWhile (· == quote)).length
  if 3 ≤ count then
    let extra := min (count - 3) 2
    some (extra, cs.drop (extra + 3))
  else none

/-- The rest of a string of several lines. A backslash at the end of a line joins it to the next
text. -/
def longString? (quote : Char) (fuel : Nat) (done : List Char) (cs : List Char) :
    Option (String × List Char) :=
  match fuel with
  | 0 => none
  | fuel + 1 =>
    match closing? quote cs with
    | some (extra, rest) =>
      some (String.ofList ((List.replicate extra quote ++ done).reverse), rest)
    | none =>
      match cs with
      | [] => none
      | c :: rest =>
        if c = '\\' ∧ quote = '"' then
          if (skipSpaces rest).head? = some '\n' then
            longString? quote fuel done (rest.dropWhile fun c => isSpace c || c == '\n')
          else
            match escape? rest with
            | some (c, rest) => longString? quote fuel (c :: done) rest
            | none => none
        else if isControl c ∧ c ≠ '\n' then none
        else longString? quote fuel (c :: done) rest

/-- A string by its delimiter; a line end right after three quotes is no text. -/
def string? (cs : List Char) : Option (String × List Char) :=
  let afterLine (rest : List Char) := if rest.head? = some '\n' then rest.tail else rest
  match cs with
  | '"' :: '"' :: '"' :: rest => longString? '"' (rest.length + 1) [] (afterLine rest)
  | '\x27' :: '\x27' :: '\x27' :: rest =>
    longString? '\x27' (rest.length + 1) [] (afterLine rest)
  | '"' :: rest => basicString? (rest.length + 1) [] rest
  | '\x27' :: rest => literalString? rest
  | _ => none

def isKeyChar (c : Char) : Bool := c.isAlphanum || c == '_' || c == '-'

def keyPart? (cs : List Char) : Option (String × List Char) :=
  match cs with
  | '"' :: rest => basicString? (rest.length + 1) [] rest
  | '\x27' :: rest => literalString? rest
  | cs =>
    let word := cs.takeWhile isKeyChar
    if word.isEmpty then none else some (String.ofList word, cs.drop word.length)

/-- The parts of a key with points between them. -/
def key? (fuel : Nat) (cs : List Char) : Option (List String × List Char) :=
  match fuel with
  | 0 => none
  | fuel + 1 => do
    let (part, rest) ← keyPart? (skipSpaces cs)
    match skipSpaces rest with
    | '.' :: rest =>
      let (parts, rest) ← key? fuel rest
      return (part :: parts, rest)
    | rest => return ([part], rest)

/-- Digits with single underscores between them. -/
def grouped? (isDigit : Char → Bool) (cs : List Char) : Option (List Char) :=
  let groups := Text.split '_' cs
  if groups.all fun g => !g.isEmpty && g.all isDigit then some groups.flatten else none

def valueIn (base : Nat) (cs : List Char) : Nat :=
  cs.foldl (fun n c => n * base + (Hex.value? c).getD 0) 0

def within64 (n : Int) : Option Item := if Item.bounds.contains n then some (.int n) else none

def based? (base : Nat) (cs : List Char) : Option Item := do
  let digits ← grouped? (fun c => (Hex.value? c).any (· < base)) cs
  within64 (valueIn base digits)

/-- Digits without a zero in front of others. -/
def decimal? (cs : List Char) : Option (List Char) :=
  (grouped? Decimal.isDigit cs).filter fun digits =>
    digits.length == 1 || digits.head? != some '0'

def float? (cs : List Char) : Option Float := do
  let isPower (c : Char) := c == 'e' || c == 'E'
  let mantissa := cs.takeWhile fun c => !isPower c
  let power := cs.drop mantissa.length
  let digits ←
    match Text.cut? '.' mantissa with
    | some (whole, fraction) =>
      match decimal? whole, grouped? Decimal.isDigit fraction with
      | some whole, some fraction => some (whole ++ '.' :: fraction)
      | _, _ => none
    | none => if power.isEmpty then none else decimal? mantissa
  let power ←
    match power with
    | [] => some []
    | _ :: '-' :: power => (grouped? Decimal.isDigit power).map ('e' :: '-' :: ·)
    | _ :: '+' :: power => (grouped? Decimal.isDigit power).map ('e' :: ·)
    | _ :: power => (grouped? Decimal.isDigit power).map ('e' :: ·)
  Decimal.unsignedFloat? (digits ++ power)

def number? (cs : List Char) : Option Item :=
  match cs with
  | '0' :: 'x' :: rest => based? 16 rest
  | '0' :: 'o' :: rest => based? 8 rest
  | '0' :: 'b' :: rest => based? 2 rest
  | cs =>
    let (negative, cs) : Bool × List Char :=
      match cs with
      | '-' :: rest => (true, rest)
      | '+' :: rest => (false, rest)
      | rest => (false, rest)
    match decimal? cs with
    | some digits =>
      let n : Int := Decimal.value digits
      within64 (if negative then -n else n)
    | none =>
      let magnitude :=
        if cs = ['i', 'n', 'f'] then some (1.0 / 0.0)
        else if cs = ['n', 'a', 'n'] then some (0.0 / 0.0)
        else float? cs
      magnitude.map fun x => .float (if negative then -x else x)

/-- A date, a time or both are kept as text. -/
def isMoment (cs : List Char) : Bool :=
  (cs.take 4).all Decimal.isDigit && cs[4]? == some '-' ||
    (cs.take 2).all Decimal.isDigit && cs[2]? == some ':'

def word? (cs : List Char) : Option Item :=
  if cs = ['t', 'r', 'u', 'e'] then some (.bool true)
  else if cs = ['f', 'a', 'l', 's', 'e'] then some (.bool false)
  else
    match number? cs with
    | some item => some item
    | none => if isMoment cs then some (.text (String.ofList cs)) else none

def isWordChar (c : Char) : Bool := c.isAlphanum || ['_', '-', '+', '.', ':'].contains c

/-- Puts an item under a key. The tables on the way are made where they are missing; the last
table of a list stands for the list. -/
def insert? (item : Item) : List String → Fields → Option Fields
  | [], _ => none
  | [name], fields => if (fields.lookup name).isSome then none else some (fields ++ [(name, item)])
  | name :: path, fields =>
    match fields.lookup name with
    | none => (insert? item path []).map fun inner => fields ++ [(name, .table inner)]
    | some (.table inner) =>
      (insert? item path inner).map fun inner => Item.setField fields name (.table inner)
    | some (.list items) =>
      match items.getLast? with
      | some (.table inner) =>
        (insert? item path inner).map fun inner =>
          Item.setField fields name (.list (items.dropLast ++ [.table inner]))
      | _ => none
    | some _ => none

mutual

def value? (fuel : Nat) (cs : List Char) : Option (Item × List Char) :=
  match fuel with
  | 0 => none
  | fuel + 1 =>
    match cs with
    | '[' :: rest => (items? fuel rest).map fun (items, rest) => (.list items, rest)
    | '\x7b' :: rest =>
      match skipSpaces rest with
      | '\x7d' :: rest => some (.table [], rest)
      | rest => (fields? fuel [] rest).map fun (fields, rest) => (.table fields, rest)
    | cs =>
      match string? cs with
      | some (s, rest) => some (.text s, rest)
      | none =>
        let word := cs.takeWhile isWordChar
        (word? word).map fun item => (item, cs.drop word.length)

/-- The items of a list, up to its closing bracket. -/
def items? (fuel : Nat) (cs : List Char) : Option (List Item × List Char) :=
  match fuel with
  | 0 => none
  | fuel + 1 =>
    match skipLines cs.length cs with
    | ']' :: rest => some ([], rest)
    | cs => do
      let (item, rest) ← value? fuel cs
      match skipLines rest.length rest with
      | ',' :: rest =>
        let (items, rest) ← items? fuel rest
        return (item :: items, rest)
      | ']' :: rest => return ([item], rest)
      | _ => none

/-- The fields of a table on one line, up to its closing brace. -/
def fields? (fuel : Nat) (fields : Fields) (cs : List Char) : Option (Fields × List Char) :=
  match fuel with
  | 0 => none
  | fuel + 1 => do
    let (path, rest) ← key? (cs.length + 1) cs
    let (item, rest) ←
      match skipSpaces rest with
      | '=' :: rest => value? fuel (skipSpaces rest)
      | _ => none
    let fields ← insert? item path fields
    match skipSpaces rest with
    | ',' :: rest => fields? fuel fields rest
    | '\x7d' :: rest => return (fields, rest)
    | _ => none

end

/-- What is read so far: the root table, the table of the last header, and the headers that must
not be repeated. -/
structure Document where
  fields : Fields := []
  header : List String := []
  headers : List (List String) := []

/-- Begins a table; it may have been made on the way to another one. -/
def Document.beginTable? (d : Document) (path : List String) : Option Document :=
  if d.headers.contains path then none
  else
    let fields? :=
      match insert? (.table []) path d.fields with
      | some fields => some fields
      | none => (insert? .null (path ++ [""]) d.fields).map fun _ => d.fields
    fields?.map fun fields => ⟨fields, path, path :: d.headers⟩

/-- The list of tables under a key with one more table. -/
def appendTable? : List String → Fields → Option Fields
  | [], _ => none
  | [name], fields =>
    match fields.lookup name with
    | none => some (fields ++ [(name, .list [.table []])])
    | some (.list items) => some (Item.setField fields name (.list (items ++ [.table []])))
    | some _ => none
  | name :: path, fields =>
    match fields.lookup name with
    | none => (appendTable? path []).map fun inner => fields ++ [(name, .table inner)]
    | some (.table inner) =>
      (appendTable? path inner).map fun inner => Item.setField fields name (.table inner)
    | some (.list items) =>
      match items.getLast? with
      | some (.table inner) =>
        (appendTable? path inner).map fun inner =>
          Item.setField fields name (.list (items.dropLast ++ [.table inner]))
      | _ => none
    | some _ => none

/-- Begins the next table of a list; the headers below it may come again. -/
def Document.beginItem? (d : Document) (path : List String) : Option Document :=
  (appendTable? path d.fields).map fun fields =>
    ⟨fields, path, d.headers.filter fun h => !path.isPrefixOf h⟩

/-- Reads the statement at the head of a text and the end of its line. -/
def Document.statement? (d : Document) (cs : List Char) : Option (Document × List Char) := do
  match cs with
  | '[' :: '[' :: rest =>
    let (path, rest) ← key? (rest.length + 1) rest
    match rest with
    | ']' :: ']' :: rest => return (← d.beginItem? path, ← lineEnd? rest)
    | _ => none
  | '[' :: rest =>
    let (path, rest) ← key? (rest.length + 1) rest
    match rest with
    | ']' :: rest => return (← d.beginTable? path, ← lineEnd? rest)
    | _ => none
  | cs =>
    let (path, rest) ← key? (cs.length + 1) cs
    match rest with
    | '=' :: rest =>
      let (item, rest) ← value? (2 * rest.length + 2) (skipSpaces rest)
      return ({ d with fields := ← insert? item (d.header ++ path) d.fields }, ← lineEnd? rest)
    | _ => none

def Document.read? (fuel : Nat) (d : Document) (cs : List Char) : Option Document :=
  match skipLines cs.length cs with
  | [] => some d
  | cs =>
    match fuel with
    | 0 => none
    | fuel + 1 => (d.statement? cs).bind fun (d, rest) => d.read? fuel rest

/-- A carriage return before a line end is a part of it. -/
def unixLines : List Char → List Char
  | '\r' :: '\n' :: rest => '\n' :: unixLines rest
  | c :: rest => c :: unixLines rest
  | [] => []

/-- The fields of the root table; none if the text is malformed. -/
def read? (text : String) : Option Fields :=
  let cs := unixLines text.toList
  (Document.read? cs.length {} cs).map (·.fields)

end GroupAccess.Toml
