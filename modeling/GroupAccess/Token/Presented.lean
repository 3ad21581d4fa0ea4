import GroupAccess.Bytes.Base64
import GroupAccess.Text.Basic

namespace GroupAccess

/-- The random part of a secret token. -/
abbrev Secret := Vector UInt8 32

namespace Secret

/-- The first byte of every secret token. -/
def tag : UInt8 := 0x4f

def ofBytes? (bytes : List UInt8) : Option Secret :=
  if h : bytes.toArray.size = 32 then some ⟨bytes.toArray, h⟩ else none

/-- The text that the owner of a secret presents. -/
def chars (s : Secret) : List Char := Base64.encode Base64.urlSafe (tag :: s.toList)

def text (s : Secret) : String := String.ofList s.chars

def ofChars? (cs : List Char) : Option Secret :=
  match Base64.decode? Base64.urlSafe cs with
  | some (first :: rest) => if first = tag then ofBytes? rest else none
  | _ => none

end Secret

/-- A presented token: the three segments of a signed one, or a secret. Base64 has no point, so no
text is both. -/
inductive Presented
  | signed (header claims signature : List Char)
  | secret (s : Secret)
  deriving DecidableEq

namespace Presented

def ofChars? (cs : List Char) : Option Presented :=
  match Text.split '.' cs with
  | [whole] => (Secret.ofChars? whole).map .secret
  | [header, claims, signature] =>
    if header = [] ∨ claims = [] ∨ signature = [] then none
    else some (.signed header claims signature)
  | _ => none

def ofText? (text : String) : Option Presented := ofChars? text.toList

end Presented

end GroupAccess
