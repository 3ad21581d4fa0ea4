import GroupAccess.Bytes.Hex
import GroupAccess.Text.Basic

namespace GroupAccess.Url

/-- The bytes of a text in which `%` and two digits stand for one byte. -/
def unescape : List UInt8 → List UInt8
  | [] => []
  | 0x25 :: a :: b :: rest =>
    match Hex.value? (Char.ofNat a.toNat), Hex.value? (Char.ofNat b.toNat) with
    | some high, some low => UInt8.ofNat (high * 16 + low) :: unescape rest
    | _, _ => 0x25 :: unescape (a :: b :: rest)
  | b :: rest => b :: unescape rest

/-- The text of a segment, unless its bytes are no text. -/
def segment? (cs : List Char) : Option String := ofUtf8? (unescape (utf8 (String.ofList cs)))

/-- The text of a part of a query, where a plus sign stands for a blank. -/
def queryPart? (cs : List Char) : Option String :=
  ofUtf8? (unescape ((utf8 (String.ofList cs)).map fun b => if b = 0x2b then 0x20 else b))

/-- The pairs of a query; empty ones are left out. -/
def pairs (query : List Char) : List (Option String × Option String) :=
  ((Text.split '&' query).filter (!·.isEmpty)).map fun pair =>
    match Text.cut? '=' pair with
    | some (name, value) => (queryPart? name, queryPart? value)
    | none => (queryPart? pair, some "")

structure Target where
  /-- What stands between the slashes of the path. -/
  segments : List (List Char)
  query : List Char
  deriving DecidableEq

def Target.ofText (text : String) : Target :=
  let whole := text.toList.takeWhile (· != '#')
  let (path, query) := (Text.cut? '?' whole).getD (whole, [])
  { segments := (Text.split '/' path).drop 1, query }

/-- The only value of a name in the query. -/
def Target.only? (t : Target) (name : String) : Option String :=
  match (pairs t.query).filter fun p => p.1 == some name with
  | [(_, value)] => value
  | _ => none

end GroupAccess.Url
