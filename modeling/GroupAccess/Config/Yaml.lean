import GroupAccess.Config.Toml

/-!
Configuration in YAML: mappings and sequences by indentation, with flow collections, quoted and
plain scalars on their lines. A text with several documents, anchors, tags or block scalars is
refused.
-/

namespace GroupAccess.Yaml

abbrev Fields := List (String × Item)

/-- A line without its indentation and its comment. -/
structure Line where
  indent : Nat
  text : List Char
  deriving DecidableEq, Repr

def isSpace (c : Char) : Bool := c == ' ' || c == '\t'

/-- Whether a character after another one opens a quoted text; one right after the end of another
text goes on with it. -/
def opens (before c : Char) : Bool :=
  (c == '"' || c == '\x27') && (before == c || [' ', '[', '\x7b', ',', ':', '-'].contains before)

/-- Whether a character after another one ends a quoted text. -/
def closes (quote before c : Char) : Bool := c == quote && (c == '\x27' || before != '\\')

/-- The text before a comment. A sign inside quotes begins none. -/
def beforeComment (quote : Option Char) (before : Char) : List Char → List Char
  | [] => []
  | c :: rest =>
    match quote with
    | some q =>
      let quote := if closes q before c then none else quote
      c :: beforeComment quote (if c = '\\' ∧ before = '\\' then ' ' else c) rest
    | none =>
      if c = '#' ∧ isSpace before then []
      else c :: beforeComment (if opens before c then some c else none) c rest

def dropSpacesAtEnd (cs : List Char) : List Char := (cs.reverse.dropWhile isSpace).reverse

/-- The line of a text; none for a blank one. -/
def line? (cs : List Char) : Option Line :=
  let indent := (cs.takeWhile (· == ' ')).length
  let text := dropSpacesAtEnd (beforeComment none ' ' (cs.drop indent))
  if text.all isSpace then none else some ⟨indent, text⟩

def plain (cs : List Char) : Option Item :=
  let text := String.ofList cs
  let based (base : Nat) (digits : List Char) : Option Item :=
    if !digits.isEmpty && digits.all (fun c => (Hex.value? c).any (· < base)) then
      Toml.within64 (Toml.valueIn base digits)
    else none
  let whole : Option Item := (Decimal.readWhole Item.bounds text).toOption.map Item.int
  let other : Option Item :=
    if text = "~" ∨ text = "null" then some .null
    else if text = "true" then some (.bool true)
    else if text = "false" then some (.bool false)
    else
      match whole, (Decimal.readFloat text).toOption with
      | some item, _ => some item
      | none, some x => some (.float x)
      | none, none =>
        if [".inf", ".Inf", ".INF", "+.inf", "+.Inf", "+.INF", "-.inf", "-.Inf", "-.INF", ".nan",
          ".NAN"].contains text then none
        else some (.text text)
  match cs with
  | '0' :: 'x' :: digits => match based 16 digits with
    | some item => some item
    | none => other
  | '0' :: 'o' :: digits => match based 8 digits with
    | some item => some item
    | none => other
  | _ => other

/-- What an escape between double quotes stands for, read after its backslash. -/
def escape? : List Char → Option (Char × List Char)
  | '0' :: rest => some ('\x00', rest)
  | 'a' :: rest => some ('\x07', rest)
  | 'v' :: rest => some ('\x0b', rest)
  | 'e' :: rest => some ('\x1b', rest)
  | ' ' :: rest => some (' ', rest)
  | '\t' :: rest => some ('\t', rest)
  | '/' :: rest => some ('/', rest)
  | 'N' :: rest => some (Char.ofNat 0x85, rest)
  | '_' :: rest => some (Char.ofNat 0xa0, rest)
  | 'L' :: rest => some (Char.ofNat 0x2028, rest)
  | 'P' :: rest => some (Char.ofNat 0x2029, rest)
  | 'x' :: rest => Toml.codePoint? 2 rest
  | cs => Toml.escape? cs

/-- The rest of a text between double quotes. -/
def doubleQuoted? (fuel : Nat) (done : List Char) : List Char → Option (String × List Char)
  | '"' :: rest => some (String.ofList done.reverse, rest)
  | '\\' :: rest =>
    match fuel, escape? rest with
    | fuel + 1, some (c, rest) => doubleQuoted? fuel (c :: done) rest
    | _, _ => none
  | c :: rest =>
    match fuel with
    | fuel + 1 => doubleQuoted? fuel (c :: done) rest
    | 0 => none
  | [] => none

/-- The rest of a text between single quotes, where two of them stand for one. -/
def singleQuoted? (done : List Char) : List Char → Option (String × List Char)
  | '\x27' :: '\x27' :: rest => singleQuoted? ('\x27' :: done) rest
  | '\x27' :: rest => some (String.ofList done.reverse, rest)
  | c :: rest => singleQuoted? (c :: done) rest
  | [] => none

def quoted? : List Char → Option (String × List Char)
  | '"' :: rest => doubleQuoted? rest.length [] rest
  | '\x27' :: rest => singleQuoted? [] rest
  | _ => none

/-- Characters that cannot begin a plain scalar. -/
def reserved : List Char :=
  ['@', '\x60', '%', '&', '*', '!', '|', '>', '[', ']', '\x7b', '\x7d', ',', '#', '"', '\x27']

/-- Characters that mark entries, keys and values before a blank. -/
def isIndicator (c : Char) : Bool := c == '-' || c == '?' || c == ':'

def mayBegin (cs : List Char) : Bool :=
  match cs with
  | [] => false
  | [c] => !reserved.contains c && !isIndicator c
  | c :: d :: _ => !reserved.contains c && !(isIndicator c && isSpace d)

/-- The text before a colon that ends a key, and the text after it. -/
def cutKey? : List Char → Option (List Char × List Char)
  | [] => none
  | [c] => if c = ':' then some ([], []) else none
  | c :: d :: rest =>
    if c = ':' ∧ isSpace d then some ([], rest.dropWhile isSpace)
    else (cutKey? (d :: rest)).map fun (before, after) => (c :: before, after)

def keyName? (cs : List Char) : Option String :=
  match plain cs with
  | some (.text s) => some s
  | some (.int n) => some (toString n)
  | _ => none

/-- The key of a line and the text after its colon. -/
def key? (text : List Char) : Option (String × List Char) :=
  match quoted? text with
  | some (name, rest) =>
    match rest.dropWhile isSpace with
    | [':'] => some (name, [])
    | ':' :: c :: rest => if isSpace c then some (name, rest.dropWhile isSpace) else none
    | _ => none
  | none =>
    if mayBegin text then
      (cutKey? text).bind fun (before, after) =>
        (keyName? (dropSpacesAtEnd before)).map fun name => (name, after)
    else none

/-- A plain scalar inside a flow collection ends before these. -/
def endsFlow (c : Char) : Bool := [',', '[', ']', '\x7b', '\x7d'].contains c

def flowPlain : List Char → List Char
  | [] => []
  | [c] => if endsFlow c || c == ':' then [] else [c]
  | c :: d :: rest =>
    if endsFlow c || (c == ':' && (isSpace d || endsFlow d)) then [] else c :: flowPlain (d :: rest)

mutual

/-- The value at the head of a flow text. -/
def flow? (fuel : Nat) (cs : List Char) : Option (Item × List Char) :=
  match fuel with
  | 0 => none
  | fuel + 1 =>
    match cs.dropWhile isSpace with
    | '[' :: rest => (flowItems? fuel rest).map fun (items, rest) => (.list items, rest)
    | '\x7b' :: rest => (flowFields? fuel [] rest).map fun (fields, rest) => (.table fields, rest)
    | cs =>
      match quoted? cs with
      | some (s, rest) => some (.text s, rest)
      | none =>
        let text := flowPlain cs
        let rest := cs.drop text.length
        if text.isEmpty then some (.null, rest)
        else if mayBegin text then (plain (dropSpacesAtEnd text)).map fun item => (item, rest)
        else none

def flowItems? (fuel : Nat) (cs : List Char) : Option (List Item × List Char) :=
  match fuel with
  | 0 => none
  | fuel + 1 =>
    match cs.dropWhile isSpace with
    | ']' :: rest => some ([], rest)
    | cs => do
      let (item, rest) ← flow? fuel cs
      match rest.dropWhile isSpace with
      | ',' :: rest =>
        let (items, rest) ← flowItems? fuel rest
        return (item :: items, rest)
      | ']' :: rest => return ([item], rest)
      | _ => none

def flowFields? (fuel : Nat) (fields : Fields) (cs : List Char) : Option (Fields × List Char) :=
  match fuel with
  | 0 => none
  | fuel + 1 =>
    match cs.dropWhile isSpace with
    | '\x7d' :: rest => some (fields, rest)
    | cs => do
      let (key, rest) ← flow? fuel cs
      let name ← match key with
        | .text s => some s
        | .int n => some (toString n)
        | _ => none
      let (item, rest) ←
        match rest.dropWhile isSpace with
        | ':' :: rest => flow? fuel rest
        | rest => some (.null, rest)
      let fields := Item.setField fields name item
      match rest.dropWhile isSpace with
      | ',' :: rest => flowFields? fuel fields rest
      | '\x7d' :: rest => return (fields, rest)
      | _ => none

end

/-- The value of a text that is no key with a value and no entry of a sequence. -/
def scalar? (text : List Char) : Option Item :=
  match text with
  | [] => some .null
  | c :: _ =>
    if ['[', '\x7b', '"', '\x27'].contains c then
      match flow? (2 * text.length + 2) text with
      | some (item, rest) => if rest.all isSpace then some item else none
      | none => none
    else if mayBegin text ∧ cutKey? text = none then plain text
    else none

/-- The text after the mark of a sequence entry, with the column where it begins. -/
def dashed? (l : Line) : Option (Option Line) :=
  match l.text with
  | ['-'] => some none
  | '-' :: c :: rest =>
    if isSpace c then
      let text := rest.dropWhile isSpace
      some (some ⟨l.indent + 2 + (rest.length - text.length), text⟩)
    else none
  | _ => none

/-- The text of a scalar with the lines that continue it. -/
def continued (indent : Nat) (text : List Char) : List Line → List Char × List Line
  | l :: rest =>
    if indent < l.indent then continued indent (text ++ ' ' :: l.text) rest else (text, l :: rest)
  | [] => (text, [])

mutual

/-- The value that the first lines hold, which are indented by `least` at least. -/
def block? (fuel : Nat) (least : Nat) (ls : List Line) : Option (Item × List Line) :=
  match fuel, ls with
  | 0, _ => none
  | _, [] => some (.null, [])
  | fuel + 1, l :: rest =>
    if l.indent < least then some (.null, l :: rest)
    else if (dashed? l).isSome then
      (sequence? fuel l.indent (l :: rest)).map fun (items, rest) => (.list items, rest)
    else if (key? l.text).isSome then
      (mapping? fuel l.indent [] (l :: rest)).map fun (fields, rest) => (.table fields, rest)
    else
      let (text, rest) := continued (least - 1) l.text rest
      (scalar? text).map fun item => (item, rest)

/-- The entries of a sequence whose marks stand at one column. -/
def sequence? (fuel : Nat) (indent : Nat) (ls : List Line) : Option (List Item × List Line) :=
  match fuel, ls with
  | 0, _ => none
  | _, [] => some ([], [])
  | fuel + 1, l :: rest =>
    if l.indent ≠ indent then if l.indent < indent then some ([], l :: rest) else none
    else
      match dashed? l with
      | none => some ([], l :: rest)
      | some first => do
        let (item, rest) ← block? fuel (indent + 1) (first.toList ++ rest)
        let (items, rest) ← sequence? fuel indent rest
        return (item :: items, rest)

/-- The fields of a mapping whose keys stand at one column; the last value of a name counts. -/
def mapping? (fuel : Nat) (indent : Nat) (fields : Fields) (ls : List Line) :
    Option (Fields × List Line) :=
  match fuel, ls with
  | 0, _ => none
  | _, [] => some (fields, [])
  | fuel + 1, l :: rest =>
    if l.indent ≠ indent then if l.indent < indent then some (fields, l :: rest) else none
    else do
      let (name, text) ← key? l.text
      let (item, rest) ←
        if text.isEmpty then
          let least := if (rest.head?.bind dashed?).isSome then indent else indent + 1
          block? fuel least rest
        else
          let (text, rest) := continued indent text rest
          (scalar? text).map fun item => (item, rest)
      mapping? fuel indent (Item.setField fields name item) rest

end

def isMarker (l : Line) : Bool :=
  l.indent == 0 && (['-', '-', '-'].isPrefixOf l.text || ['.', '.', '.'].isPrefixOf l.text)

/-- The lines of the only document; the marker before it may be missing. -/
def document? (ls : List Line) : Option (List Line) :=
  let isBegun := ls.head?.any fun l => l.indent == 0 && l.text == ['-', '-', '-']
  let body := if isBegun then ls.tail else ls
  let ends (l : Line) := l.indent == 0 && l.text == ['.', '.', '.']
  let body := if body.getLast?.any ends then body.dropLast else body
  if isBegun && body.isEmpty then none else if body.any isMarker then none else some body

/-- The fields of the root mapping; a text without any line has none. -/
def read? (text : String) : Option Fields := do
  let ls := (Text.split '\n' (Toml.unixLines text.toList)).filterMap line?
  if ls.any fun l => l.text.head? == some '\t' then none
  let ls ← document? ls
  if ls.isEmpty then return []
  match ← block? (4 * ls.length + 4) 0 ls with
  | (.table fields, []) => some fields
  | _ => none

end GroupAccess.Yaml
