namespace GroupAccess

/-- A value that the service writes; the fields of an object keep their order. -/
inductive Json
  | null
  | bool (b : Bool)
  | int (n : Int)
  | string (s : String)
  | array (items : List Json)
  | object (fields : List (String × Json))
  deriving Repr

namespace Json

def hexDigit (n : Nat) : Char := if n < 10 then Char.ofNat (n + 48) else Char.ofNat (n + 87)

/-- A character inside a string: quotes, backslashes and control characters are escaped. -/
def escape (c : Char) : List Char :=
  if c = '"' then ['\\', '"']
  else if c = '\\' then ['\\', '\\']
  else if c.toNat = 8 then ['\\', 'b']
  else if c.toNat = 9 then ['\\', 't']
  else if c.toNat = 10 then ['\\', 'n']
  else if c.toNat = 12 then ['\\', 'f']
  else if c.toNat = 13 then ['\\', 'r']
  else if c.toNat < 32 then
    ['\\', 'u', '0', '0', hexDigit (c.toNat / 16), hexDigit (c.toNat % 16)]
  else [c]

def quote (s : List Char) : List Char := '"' :: (s.flatMap escape ++ ['"'])

def intChars (n : Int) : List Char :=
  if n < 0 then '-' :: Nat.toDigits 10 n.natAbs else Nat.toDigits 10 n.natAbs

mutual

/-- The text of a value without blanks. -/
def chars : Json → List Char
  | .null => ['n', 'u', 'l', 'l']
  | .bool true => ['t', 'r', 'u', 'e']
  | .bool false => ['f', 'a', 'l', 's', 'e']
  | .int n => intChars n
  | .string s => quote s.toList
  | .array [] => ['[', ']']
  | .array (item :: rest) => '[' :: (item.chars ++ itemsAfter rest)
  | .object [] => ['{', '}']
  | .object ((name, value) :: rest) =>
    '{' :: (quote name.toList ++ ':' :: (value.chars ++ fieldsAfter rest))

/-- The items after the first one, and the closing bracket. -/
def itemsAfter : List Json → List Char
  | [] => [']']
  | item :: rest => ',' :: (item.chars ++ itemsAfter rest)

/-- The fields after the first one, and the closing brace. -/
def fieldsAfter : List (String × Json) → List Char
  | [] => ['}']
  | (name, value) :: rest =>
    ',' :: (quote name.toList ++ ':' :: (value.chars ++ fieldsAfter rest))

end

def text (j : Json) : String := String.ofList j.chars

end Json

end GroupAccess
