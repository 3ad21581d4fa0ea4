import GroupAccess.Http.Url
import GroupAccess.Net.Address
import GroupAccess.Text.Lowercase

namespace GroupAccess.DatabaseUrl

def isTrimmed (c : Char) : Bool := c.toNat ≤ 0x20

/-- Without what is ignored at the ends and inside. -/
def cleaned (cs : List Char) : List Char :=
  ((((cs.dropWhile isTrimmed).reverse.dropWhile isTrimmed).reverse).filter fun c =>
    c != '\t' && c != '\n' && c != '\r')

def isSchemeChar (c : Char) : Bool := c.isAlphanum || ['+', '-', '.'].contains c

/-- The scheme before a colon and the text after it. -/
def cutScheme? (cs : List Char) : Option (String × List Char) :=
  if cs.head?.any Char.isAlpha then
    let scheme := cs.takeWhile isSchemeChar
    match cs.drop scheme.length with
    | ':' :: rest => some (Text.asciiLowercase (String.ofList scheme), rest)
    | _ => none
  else none

/-- Schemes that need a host and in which a backslash is a slash. -/
def isWeb (scheme : String) : Bool := ["ftp", "http", "https", "ws", "wss"].contains scheme

def refusedInHost : List Char :=
  [Char.ofNat 0, ' ', '#', '/', ':', '<', '>', '?', '@', '[', '\\', ']', '^', '|']

def isHost (cs : List Char) : Bool :=
  match cs with
  | '[' :: rest => rest.getLast? == some ']' && Net.isV6 rest.dropLast
  | cs => cs.all fun c => !refusedInHost.contains c

/-- The host, in brackets or up to a colon, and the text after it. -/
def cutHost (cs : List Char) : List Char × List Char :=
  match cs, Text.cut? ']' cs with
  | '[' :: _, some (address, rest) => (address ++ [']'], rest)
  | cs, _ => let host := cs.takeWhile (· != ':'); (host, cs.drop host.length)

/-- A port may be left out, also after its colon. -/
def isPort (cs : List Char) : Bool :=
  match cs with
  | [] => true
  | [':'] => true
  | ':' :: digits => Net.isNumber Net.portCount digits
  | _ => false

def isEscapedText (cs : List Char) : Bool := (Url.segment? cs).isSome

/-- The name and the password before an at sign, the host and the port. -/
def isAuthority (needsHost : Bool) (cs : List Char) : Bool :=
  let (user, place) := (Text.cutLast? '@' cs).getD ([], cs)
  let (host, port) := cutHost place
  isHost host && isPort port && isEscapedText user &&
    (!host.isEmpty || (!needsHost && port.isEmpty && user.isEmpty))

def sslModes : List String :=
  ["disable", "allow", "prefer", "require", "verify-ca", "verify-full"]

/-- Whether the value of a parameter is understood; unknown parameters are ignored. -/
def isParameter (name value : String) : Bool :=
  if name = "sslmode" ∨ name = "ssl-mode" then sslModes.contains (Text.asciiLowercase value)
  else if name = "hostaddr" then Net.isAddress value.toList
  else if name = "port" then (Decimal.readWhole (.unsigned 16) value).isOk
  else if name = "statement-cache-capacity" then (Decimal.readWhole (.unsigned 64) value).isOk
  else true

def areParameters (query : List Char) : Bool :=
  (Url.pairs query).all fun (name, value) => isParameter (name.getD "") (value.getD "")

/-- A path, a query and a fragment. -/
def isRest (cs : List Char) : Bool :=
  let (path, query) := (Text.cut? '?' (cs.takeWhile (· != '#'))).getD
    (cs.takeWhile (· != '#'), [])
  isEscapedText path && areParameters query

def isValid (text : String) : Bool :=
  match cutScheme? (cleaned text.toList) with
  | none => false
  | some (scheme, rest) =>
    let web := isWeb scheme
    let rest := if web then rest.map fun c => if c = '\\' then '/' else c else rest
    let authority? :=
      if web then some (rest.dropWhile (· == '/'))
      else if scheme = "file" then none
      else Text.after? ['/', '/'] rest
    match authority? with
    | none => isRest rest
    | some rest =>
      let authority := rest.takeWhile fun c => !(c == '/' || c == '?' || c == '#')
      isAuthority web authority && isRest (rest.drop authority.length)

end GroupAccess.DatabaseUrl

namespace GroupAccess

/-- Why no connection to a database is tried. -/
inductive PoolError
  | notConfigured
  | malformed
  deriving DecidableEq, Repr

namespace PoolError

/-- The first words; after them comes a reason for what is malformed. -/
def message : PoolError → String
  | notConfigured => "DATABASE_URL is not configured"
  | malformed => "error with configuration"

end PoolError

/-- The locator with which connections are opened. -/
def poolUrl (url : Option String) : Except PoolError String :=
  match url with
  | none => .error .notConfigured
  | some url => if DatabaseUrl.isValid url then .ok url else .error .malformed

end GroupAccess
