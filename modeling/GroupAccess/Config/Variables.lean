import GroupAccess.Text.Basic

namespace GroupAccess

abbrev Variables := List (String × String)

namespace Variables

def get? (vs : Variables) (name : String) : Option String := vs.lookup name

/-- Sets a variable that is not set. -/
def add (vs : Variables) (name value : String) : Variables :=
  if (vs.get? name).isSome then vs else vs ++ [(name, value)]

/-- How a line of the file is open at some place. -/
inductive Mode
  | plain
  | blank
  | escape
  | strong
  | strongEscape
  | weak
  | weakEscape
  deriving DecidableEq, Repr

namespace Mode

def opening (c : Char) : Mode :=
  if c = '\\' then escape
  else if c = '"' then weak
  else if c = '\x27' then strong
  else plain

/-- None where a comment begins. -/
def next (m : Mode) (c : Char) : Option Mode :=
  match m with
  | plain =>
    some (if Text.isBlank c && c != '\n' && c != '\r' then blank else opening c)
  | blank => if c = '#' then none else some (opening c)
  | escape => some plain
  | strong =>
    some (if c = '\\' then strongEscape else if c = '\x27' then plain else strong)
  | strongEscape => some strong
  | weak => some (if c = '\\' then weakEscape else if c = '"' then plain else weak)
  | weakEscape => some weak

end Mode

/-- The part of a line before its comment and how it is open at the end, which is not asked for
after a comment. -/
def scan (mode : Mode) : List Char → List Char × Option Mode
  | [] => ([], some mode)
  | c :: rest =>
    match mode.next c with
    | none => ([], none)
    | some mode =>
      let (kept, mode) := scan mode rest
      (c :: kept, mode)

/-- The lines of a text, each with its line end. -/
def lines : List Char → List (List Char)
  | [] => []
  | c :: rest =>
    if c = '\n' then [c] :: lines rest
    else
      match lines rest with
      | [] => [[c]]
      | line :: more => (c :: line) :: more

/-- Puts lines together that a quote or a backslash holds together. The list ends in `none` if the
last of them is open. -/
def entries (held : List Char) (mode : Mode) : List (List Char) → List (Option (List Char))
  | [] => if mode = .plain then [] else [none]
  | line :: rest =>
    if ((held ++ line).dropWhile Text.isBlank).head? = some '#' then entries [] .plain rest
    else
      match scan mode line with
      | (kept, none) => some (held ++ kept) :: entries [] .plain rest
      | (kept, some .plain) => some (held ++ kept) :: entries [] .plain rest
      | (kept, some mode) => entries (held ++ kept) mode rest

/-- How a value is open at some place. -/
inductive ValueMode
  | text
  | strong
  | escape
  | name
  | bracedName
  | ended
  | comment
  deriving DecidableEq, Repr

/-- A value that is being read; its text and the name of a variable in it are kept in reverse. -/
structure Value where
  text : List Char := []
  name : List Char := []
  inWeak : Bool := false
  mode : ValueMode := .text
  deriving DecidableEq, Repr

namespace Value

def push (v : Value) (c : Char) : Value := { v with text := c :: v.text, mode := .text }

def substitute (vs : Variables) (v : Value) : Value :=
  let value := ((vs.get? (String.ofList v.name.reverse)).getD "").toList
  { v with text := value.reverse ++ v.text, name := [], mode := .text }

def escaped? (c : Char) : Option Char :=
  if ['\\', '\x27', '"', '$', ' '].contains c then some c
  else if c = 'n' then some '\n'
  else none

def nextText (v : Value) (c : Char) : Value :=
  if c = '$' then { v with mode := .name }
  else if c = '\\' then { v with mode := .escape }
  else if v.inWeak then if c = '"' then { v with inWeak := false } else v.push c
  else if c = '\x27' then { v with mode := .strong }
  else if c = '"' then { v with inWeak := true }
  else if c = ' ' ∨ c = '\t' then { v with mode := .ended }
  else v.push c

def next (vs : Variables) (v : Value) (c : Char) : Option Value :=
  match v.mode with
  | .comment => some v
  | .ended =>
    if c = ' ' ∨ c = '\t' then some v
    else if c = '#' then some { v with mode := .comment }
    else none
  | .escape => (escaped? c).map v.push
  | .strong =>
    some (if c = '\x27' then { v with mode := .text } else { v with text := c :: v.text })
  | .name =>
    some <|
      if c.isAlphanum then { v with name := c :: v.name }
      else if c = '\x7b' ∧ v.name = [] then { v with mode := .bracedName }
      else
        let v := v.substitute vs
        if c = '$' then { v with mode := .name } else v.push c
  | .bracedName =>
    some (if c = '\x7d' then v.substitute vs else { v with name := c :: v.name })
  | .text => some (v.nextText c)

/-- A value ends outside quotes and braces. -/
def close (vs : Variables) (v : Value) : Option String :=
  if v.inWeak ∨ v.mode = .strong ∨ v.mode = .bracedName then none
  else some (String.ofList (v.substitute vs).text.reverse)

end Value

def readValue (vs : Variables) (text : List Char) : Option String :=
  (text.foldlM (Value.next vs) {}).bind (Value.close vs)

def isNameStart (c : Char) : Bool := c.isAlpha || c == '_'

def isNameChar (c : Char) : Bool := c.isAlphanum || c == '_' || c == '.'

/-- A name and the text after the blanks behind it. -/
def name? (line : List Char) : Option (String × List Char) :=
  if line.head?.any isNameStart then
    some (String.ofList (line.takeWhile isNameChar),
      (line.dropWhile isNameChar).dropWhile Text.isBlank)
  else none

/-- The name of an entry and the text after the equals sign. A first word `export` is no name if
another name follows. -/
def named? (line : List Char) : Option (String × List Char) := do
  let (name, rest) ← name? line
  match rest with
  | '=' :: rest => some (name, rest)
  | rest =>
    if name = "export" then
      match ← name? rest with
      | (name, '=' :: rest) => some (name, rest)
      | _ => none
    else none

/-- Adds an entry; one without a name is blank or malformed. -/
def addEntry (vs : Variables) (entry : List Char) : Option Variables :=
  match Text.trimChars entry with
  | [] => some vs
  | line => do
    if line.head? = some '#' then return vs
    let (name, rest) ← named? line
    let text := rest.dropWhile Text.isBlank
    if text = [] ∨ text.head? = some '#' then return vs.add name ""
    return vs.add name (← readValue vs text)

/-- Adds entries up to the first malformed one. -/
def addEntries (vs : Variables) : List (Option (List Char)) → Variables
  | some entry :: rest =>
    match vs.addEntry entry with
    | some vs => vs.addEntries rest
    | none => vs
  | _ => vs

/-- The mark that may stand at the beginning of a file. -/
def byteOrderMark : Char := Char.ofNat 0xfeff

def withoutMark (text : List Char) : List Char :=
  if text.head? = some byteOrderMark then text.tail else text

/-- Adds the variables of a file that are not set. -/
def addFile (vs : Variables) (text : String) : Variables :=
  vs.addEntries (entries [] .plain (lines (withoutMark text.toList)))

end Variables

end GroupAccess
