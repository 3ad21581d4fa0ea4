import GroupAccess.Bytes.Hex
import GroupAccess.Decimal.Reading
import GroupAccess.Text.Basic

namespace GroupAccess.Net

/-- A number of at most three digits below 256, without leading zeros. -/
def isOctet (cs : List Char) : Bool :=
  !cs.isEmpty && cs.length ≤ 3 && cs.all Decimal.isDigit && Decimal.value cs < 256 &&
    (cs.length == 1 || cs.head? != some '0')

def isV4 (cs : List Char) : Bool :=
  let parts := Text.split '.' cs
  parts.length == 4 && parts.all isOctet

/-- One to four hexadecimal digits. -/
def isGroup (cs : List Char) : Bool :=
  !cs.isEmpty && cs.length ≤ 4 && cs.all fun c => (Hex.value? c).isSome

/-- The text before the first `::` and the text after it. -/
def cutGap? : List Char → Option (List Char × List Char)
  | ':' :: ':' :: rest => some ([], rest)
  | c :: rest => (cutGap? rest).map fun (before, after) => (c :: before, after)
  | [] => none

def pieces (cs : List Char) : List (List Char) := if cs.isEmpty then [] else Text.split ':' cs

/-- How many groups the pieces make; the last one may be an address of version 4, which makes
two. -/
def groupCount? : List (List Char) → Option Nat
  | [] => some 0
  | [last] => if isGroup last then some 1 else if isV4 last then some 2 else none
  | piece :: rest => if isGroup piece then (groupCount? rest).map (· + 1) else none

/-- Eight groups, or fewer with a gap. -/
def isV6 (cs : List Char) : Bool :=
  match cutGap? cs with
  | none => groupCount? (pieces cs) == some 8
  | some (before, after) =>
    (pieces before).all isGroup &&
      match groupCount? (pieces after) with
      | some n => (pieces before).length + n < 8
      | none => false

def isAddress (cs : List Char) : Bool := isV4 cs || isV6 cs

/-- Ports are numbers of 16 bits. -/
def portCount : Nat := 65536

/-- Zones of version 6 are numbers of 32 bits. -/
def zoneCount : Nat := 4294967296

/-- Digits of a number below `limit`. -/
def isNumber (limit : Nat) (cs : List Char) : Bool :=
  !cs.isEmpty && cs.all Decimal.isDigit && Decimal.value cs < limit

/-- An address of version 6 with an optional zone number. -/
def isScoped (cs : List Char) : Bool :=
  match Text.cut? '%' cs with
  | some (address, zone) => isV6 address && isNumber zoneCount zone
  | none => isV6 cs

/-- An address with a port; one of version 6 stands in brackets. -/
def isSocketAddress (cs : List Char) : Bool :=
  match Text.cutLast? ':' cs with
  | none => false
  | some (host, port) =>
    isNumber portCount port &&
      match host with
      | '[' :: rest => rest.getLast? == some ']' && isScoped rest.dropLast
      | host => isV4 host

end GroupAccess.Net
