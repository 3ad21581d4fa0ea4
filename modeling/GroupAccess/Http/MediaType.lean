import GroupAccess.Text.Basic
import GroupAccess.Text.Lowercase

namespace GroupAccess.MediaType

def isTokenChar (c : Char) : Bool :=
  c.isAlphanum ||
    ['!', '#', '$', '%', '&', '\x27', '+', '-', '.', '^', '_', '\x60', '|', '~'].contains c

def isToken (cs : List Char) : Bool := !cs.isEmpty && cs.all isTokenChar

def isControl (c : Char) : Bool := c.toNat < 32 || c.toNat == 127

/-- The text after the quote that ends a value. -/
def afterQuoted? : List Char → Option (List Char)
  | [] => none
  | '"' :: rest => some rest
  | '\\' :: c :: rest => if isControl c then none else afterQuoted? rest
  | c :: rest => if isControl c then none else afterQuoted? rest

/-- The text after a quoted value, the first character of which is not its end. -/
def afterOpening? : List Char → Option (List Char)
  | '"' :: rest => afterQuoted? rest
  | cs => afterQuoted? cs

/-- Whether a text is a list of parameters, the first semicolon of which is read. -/
def areParams (fuel : Nat) (cs : List Char) : Bool :=
  match fuel with
  | 0 => false
  | fuel + 1 =>
    match cs.dropWhile (· == ' ') with
    | [] => true
    | '=' :: _ => false
    | cs =>
      match cs.dropWhile isTokenChar with
      | '=' :: '"' :: rest =>
        match afterOpening? rest with
        | none => false
        | some rest =>
          match rest.dropWhile (· == ' ') with
          | [] => true
          | ';' :: rest => areParams fuel rest
          | _ => false
      | '=' :: ';' :: _ => false
      | '=' :: rest =>
        match rest.dropWhile isTokenChar with
        | [] => true
        | ';' :: rest => areParams fuel rest
        | _ => false
      | _ => false

/-- The type and subtype of a well-formed text. -/
def essence? (cs : List Char) : Option (List Char × List Char) := do
  let (type, rest) ← Text.cut? '/' cs
  let subtype := rest.takeWhile isTokenChar
  guard (isToken type && isToken subtype)
  match rest.dropWhile isTokenChar with
  | [] => return (type, subtype)
  | ';' :: params => if areParams (params.length + 1) params then return (type, subtype) else none
  | _ => none

/-- Whether a subtype is `json`, up to its suffix or as its suffix. -/
def isJsonSubtype (subtype : List Char) : Bool :=
  match Text.cutLast? '+' subtype with
  | some (name, suffix) =>
    if name.isEmpty then subtype == "json".toList
    else name == "json".toList || suffix == "json".toList
  | none => subtype == "json".toList

/-- Whether a text is the media type of some JSON, in either case. -/
def isJson (text : String) : Bool :=
  match essence? (Text.asciiLowercase text).toList with
  | some (type, subtype) => type == "application".toList && isJsonSubtype subtype
  | none => false

end GroupAccess.MediaType
