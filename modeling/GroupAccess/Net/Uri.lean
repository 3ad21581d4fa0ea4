import GroupAccess.Text.Basic

namespace GroupAccess.Net

/-- Nothing longer is read. -/
def maxUriLength : Nat := 65534

def isSchemeChar (c : Char) : Bool := c.isAlphanum || ['+', '-', '.'].contains c

def maxSchemeLength : Nat := 64

/-- The scheme before `://` and the text after it. -/
def cutScheme? (cs : List Char) : Option (List Char × List Char) :=
  let scheme := cs.takeWhile isSchemeChar
  (Text.after? [':', '/', '/'] (cs.drop scheme.length)).map fun rest => (scheme, rest)

def endsAuthority (c : Char) : Bool := c == '/' || c == '?' || c == '#'

def isAuthorityChar (c : Char) : Bool :=
  c.isAlphanum ||
    ['!', '$', '&', '\x27', '(', ')', '*', '+', ',', '-', '.', ';', '=', '_', '~', ':', '[', ']',
      '@', '%'].contains c

/-- What is seen of an authority. What comes before an at sign or a closing bracket is not counted
any more. -/
structure AuthorityScan where
  colons : Nat := 0
  opened : Bool := false
  closed : Bool := false
  percent : Bool := false

namespace AuthorityScan

/-- As many as an address of version 6 and its port need. -/
def maxColons : Nat := 8

def next (s : AuthorityScan) (c : Char) : Option AuthorityScan :=
  if !isAuthorityChar c then none
  else if c = ':' then
    if maxColons ≤ s.colons then none else some { s with colons := s.colons + 1 }
  else if c = '[' then if s.percent || s.opened then none else some { s with opened := true }
  else if c = ']' then
    if !s.opened || s.closed then none
    else some { s with closed := true, colons := 0, percent := false }
  else if c = '@' then some { s with colons := 0, percent := false }
  else if c = '%' then some { s with percent := true }
  else some s

end AuthorityScan

def isAuthority (cs : List Char) : Bool :=
  match cs.foldlM AuthorityScan.next {} with
  | none => false
  | some s => s.opened == s.closed && s.colons ≤ 1 && !s.percent && cs.getLast? != some '@'

def isPathChar (c : Char) : Bool :=
  let n := c.toNat
  n == 0x21 || n == 0x22 || (0x24 ≤ n && n ≤ 0x3b) || n == 0x3d || (0x40 ≤ n && n ≤ 0x5f) ||
    (0x61 ≤ n && n ≤ 0x7e)

def isQueryChar (c : Char) : Bool :=
  let n := c.toNat
  n == 0x21 || (0x24 ≤ n && n ≤ 0x3b) || n == 0x3d || (0x3f ≤ n && n ≤ 0x7e)

/-- A path with a query; what follows a number sign is not looked at. -/
def isPath (cs : List Char) : Bool :=
  let shown := cs.takeWhile (· != '#')
  match Text.cut? '?' shown with
  | some (path, query) => path.all isPathChar && query.all isQueryChar
  | none => shown.all isPathChar

/-- A scheme, an authority and a path, or the authority or the path alone. -/
def isUri (cs : List Char) : Bool :=
  cs.length ≤ maxUriLength &&
    if cs.head? = some '/' then isPath cs
    else
      match cutScheme? cs with
      | some (scheme, rest) =>
        let authority := rest.takeWhile (!endsAuthority ·)
        scheme.length ≤ maxSchemeLength && !authority.isEmpty && isAuthority authority &&
          isPath (rest.drop authority.length)
      | none => !cs.isEmpty && cs.all (!endsAuthority ·) && isAuthority cs

end GroupAccess.Net
