import GroupAccess.Json.Decode
import GroupAccess.Text.Lowercase

namespace GroupAccess

/-- A signed token carries its claims; a secret one is random and looked up by its digest. -/
inductive TokenKind
  | signed
  | secret
  deriving DecidableEq, Repr

namespace TokenKind

def name : TokenKind → String
  | .signed => "signed"
  | .secret => "opaque"

def ofName? (s : String) : Option TokenKind :=
  if s = "signed" then some .signed else if s = "opaque" then some .secret else none

/-- A kind named in either case of the letters A to Z. -/
def ofText? (s : String) : Option TokenKind := ofName? (Text.asciiLowercase s)

/-- What is said of a text that names no kind. -/
def unknownMessage (s : String) : String := s!"unknown token kind: {Text.asciiLowercase s}"

def decode : Json.Decoder TokenKind := Json.decodeCase ofName?

end TokenKind

inductive Audience
  | access
  | refresh
  deriving DecidableEq, Repr

namespace Audience

def name : Audience → String
  | .access => "access"
  | .refresh => "refresh"

def ofName? (s : String) : Option Audience :=
  if s = "access" then some .access else if s = "refresh" then some .refresh else none

def decode : Json.Decoder Audience := Json.decodeCase ofName?

end Audience

end GroupAccess
