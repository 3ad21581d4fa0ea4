import GroupAccess.Bytes.Hex
import GroupAccess.Text.Basic

namespace GroupAccess

structure Uuid where
  bytes : Vector UInt8 16
  deriving DecidableEq

namespace Uuid

instance : LT Uuid := ⟨fun a b => a.bytes.toList < b.bytes.toList⟩

instance (a b : Uuid) : Decidable (a < b) :=
  inferInstanceAs (Decidable (a.bytes.toList < b.bytes.toList))

def ofBytes? (bytes : List UInt8) : Option Uuid :=
  if h : bytes.toArray.size = 16 then some ⟨⟨bytes.toArray, h⟩⟩ else none

/-- The hyphenated form in lower case. -/
def chars (u : Uuid) : List Char :=
  let digits := Hex.encode u.bytes.toList
  digits.take 8 ++ '-' :: ((digits.drop 8).take 4 ++ '-' :: ((digits.drop 12).take 4 ++
    '-' :: ((digits.drop 16).take 4 ++ '-' :: digits.drop 20)))

def text (u : Uuid) : String := String.ofList u.chars

def ofBare? (digits : List Char) : Option Uuid := do
  let bytes ← Hex.decode? digits
  ofBytes? bytes

def ofHyphenated? (cs : List Char) : Option Uuid :=
  match Text.split '-' cs with
  | [a, b, c, d, e] =>
    if [a, b, c, d, e].map List.length = [8, 4, 4, 4, 12] then ofBare? (a ++ b ++ c ++ d ++ e)
    else none
  | _ => none

/-- The text between braces. -/
def unbraced? (cs : List Char) : Option (List Char) :=
  match cs with
  | '{' :: rest => if rest.getLast? = some '}' then some rest.dropLast else none
  | _ => none

/-- The text after `urn:uuid:` in any case. -/
def afterUrn? (cs : List Char) : Option (List Char) :=
  if (cs.take 9).map Char.toLower = ['u', 'r', 'n', ':', 'u', 'u', 'i', 'd', ':'] then
    some (cs.drop 9)
  else none

/-- Four texts are read, in either case of the digits: hyphenated, bare, hyphenated in braces, and
hyphenated after `urn:uuid:`. -/
def ofChars? (cs : List Char) : Option Uuid :=
  if cs.length = 32 then ofBare? cs
  else
    match unbraced? cs, afterUrn? cs with
    | some inner, _ => ofHyphenated? inner
    | none, some rest => ofHyphenated? rest
    | none, none => ofHyphenated? cs

def ofText? (text : String) : Option Uuid := ofChars? text.toList

/-- The four high bits of the seventh byte. -/
def version (u : Uuid) : Nat := u.bytes[6].toNat / 16

/-- An identifier of version 4: all bits random but those of the version and the variant. -/
def random (bytes : Vector UInt8 16) : Uuid :=
  ⟨(bytes.set 6 ((bytes[6] &&& 0x0f) ||| 0x40)).set 8 ((bytes[8] &&& 0x3f) ||| 0x80)⟩

end Uuid

structure UserId where
  uuid : Uuid
  deriving DecidableEq

structure GroupId where
  uuid : Uuid
  deriving DecidableEq

/-- Identifies a tuple of permissions; equal tuples share one identifier. -/
structure RoleId where
  uuid : Uuid
  deriving DecidableEq

structure InviteId where
  uuid : Uuid
  deriving DecidableEq

structure TokenId where
  uuid : Uuid
  deriving DecidableEq

end GroupAccess
