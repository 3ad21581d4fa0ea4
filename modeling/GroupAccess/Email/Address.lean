import GroupAccess.Domain.Ascii
import GroupAccess.Net.Address
import GroupAccess.Text.Basic
import GroupAccess.Text.Lowercase

namespace GroupAccess.Email

/-- Without blanks at the ends and in lower case. -/
def normalize (text : String) : String := Text.lowercase (Text.trim text)

/-- A letter or digit; two letters outside ASCII have an ASCII letter as their other case. -/
def isAlphanumeric (c : Char) : Bool :=
  c.isAlphanum || c.toNat == 0x17f || c.toNat == 0x212a

def isLocalChar (c : Char) : Bool :=
  isAlphanumeric c ||
    ['.', '!', '#', '$', '%', '&', '\x27', '*', '+', '/', '=', '?', '^', '_', '\x60', '\x7b', '|',
      '\x7d', '~', '-'].contains c

/-- The part before the last at sign. -/
def isLocalPart (cs : List Char) : Bool := !cs.isEmpty && cs.all isLocalChar

/-- At most 63 letters, digits and hyphens, with no hyphen at either end. -/
def isLabel (cs : List Char) : Bool :=
  !cs.isEmpty && cs.length ≤ 63 && cs.all (fun c => isAlphanumeric c || c == '-') &&
    cs.head? != some '-' && cs.getLast? != some '-'

def isHostName (cs : List Char) : Bool := (Text.split '.' cs).all isLabel

/-- Whether a text ends in an internet address in brackets. -/
def endsInAddress (cs : List Char) : Bool :=
  match Text.cutLast? '[' cs with
  | some (_, literal) => literal.getLast? == some ']' && Net.isAddress literal.dropLast
  | none => false

def isDomain (cs : List Char) : Bool := isHostName cs || endsInAddress cs

/-- Whether a text is an address. A domain that is none itself may be one in ASCII. -/
def isValidChars (cs : List Char) : Bool :=
  match Text.cutLast? '@' cs with
  | none => false
  | some (localPart, domain) =>
    localPart.length ≤ 64 && domain.length ≤ 255 && isLocalPart localPart &&
      (isDomain domain || (Domain.toAscii? domain).any isDomain)

def isValid (text : String) : Bool := isValidChars text.toList

end GroupAccess.Email
