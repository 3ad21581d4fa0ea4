import GroupAccess.Bytes.Word

namespace GroupAccess.Blake2b

def iv : List UInt64 :=
  [0x6a09e667f3bcc908, 0xbb67ae8584caa73b, 0x3c6ef372fe94f82b, 0xa54ff53a5f1d36f1,
    0x510e527fade682d1, 0x9b05688c2b3e6c1f, 0x1f83d9abfb41bd6b, 0x5be0cd19137e2179]

/-- Message word order, a row a round; the last two rounds repeat the first two rows. -/
def sigma : List (List Nat) :=
  [[0, 1, 2, 3, 4, 5, 6, 7, 8, 9, 10, 11, 12, 13, 14, 15],
    [14, 10, 4, 8, 9, 15, 13, 6, 1, 12, 0, 2, 11, 7, 5, 3],
    [11, 8, 12, 0, 5, 2, 15, 13, 10, 14, 3, 6, 7, 1, 9, 4],
    [7, 9, 3, 1, 13, 12, 11, 14, 2, 6, 5, 10, 4, 0, 15, 8],
    [9, 0, 5, 7, 2, 4, 10, 15, 14, 1, 11, 12, 6, 8, 3, 13],
    [2, 12, 6, 10, 0, 11, 8, 3, 4, 13, 7, 5, 15, 14, 1, 9],
    [12, 5, 1, 15, 14, 13, 4, 10, 0, 7, 6, 3, 9, 2, 8, 11],
    [13, 11, 7, 14, 12, 1, 3, 9, 5, 0, 15, 4, 8, 6, 2, 10],
    [6, 15, 14, 9, 11, 3, 0, 8, 12, 2, 13, 7, 1, 4, 10, 5],
    [10, 2, 8, 4, 7, 6, 1, 5, 15, 11, 9, 14, 3, 12, 13, 0],
    [0, 1, 2, 3, 4, 5, 6, 7, 8, 9, 10, 11, 12, 13, 14, 15],
    [14, 10, 4, 8, 9, 15, 13, 6, 1, 12, 0, 2, 11, 7, 5, 3]]

/-- The four lanes of each of the eight mixings of a round: columns, then diagonals. -/
def lanes : List (Nat × Nat × Nat × Nat) :=
  [(0, 4, 8, 12), (1, 5, 9, 13), (2, 6, 10, 14), (3, 7, 11, 15),
    (0, 5, 10, 15), (1, 6, 11, 12), (2, 7, 8, 13), (3, 4, 9, 14)]

def rotr (x : UInt64) (n : UInt64) : UInt64 := (x >>> n) ||| (x <<< (64 - n))

def mix (v : Array UInt64) (lane : Nat × Nat × Nat × Nat) (x y : UInt64) : Array UInt64 :=
  let (i, j, k, l) := lane
  let a := v.getD i 0
  let b := v.getD j 0
  let c := v.getD k 0
  let d := v.getD l 0
  let a := a + b + x
  let d := rotr (d ^^^ a) 32
  let c := c + d
  let b := rotr (b ^^^ c) 24
  let a := a + b + y
  let d := rotr (d ^^^ a) 16
  let c := c + d
  let b := rotr (b ^^^ c) 63
  (((v.setIfInBounds i a).setIfInBounds j b).setIfInBounds k c).setIfInBounds l d

def round (m : Array UInt64) (v : Array UInt64) (row : List Nat) : Array UInt64 :=
  (lanes.zip (Word.pieces 1 row)).foldl
    (fun v (lane, words) =>
      match words with
      | [p, q] => mix v lane (m.getD p 0) (m.getD q 0)
      | _ => v) v

/-- Absorbs a block of sixteen words; `count` bytes are hashed with it, `last` marks the end. -/
def compress (h : List UInt64) (block : List UInt64) (count : Nat) (last : Bool) : List UInt64 :=
  let v := (h ++ iv).toArray
  let v := v.modify 12 (· ^^^ UInt64.ofNat count)
  let v := v.modify 13 (· ^^^ UInt64.ofNat (count >>> 64))
  let v := if last then v.modify 14 (· ^^^ 0xffffffffffffffff) else v
  let w := (sigma.foldl (round block.toArray) v).toList
  List.zipWith (· ^^^ ·) h (List.zipWith (· ^^^ ·) (w.take 8) (w.drop 8))

/-- Absorbs blocks; the last one is filled with zeros. -/
def absorb (h : List UInt64) (count : Nat) : List (List UInt8) → List UInt64
  | [] => h
  | [b] =>
    compress h (Word.ofLittleEndian64 (b ++ List.replicate (128 - b.length) 0))
      (count + b.length) true
  | b :: rest =>
    absorb (compress h (Word.ofLittleEndian64 b) (count + 128) false) (count + 128) rest

/-- The digest of `size` bytes, at most 64. -/
def digest (size : Nat) (message : List UInt8) : List UInt8 :=
  let h := iv.modify 0 (· ^^^ (0x01010000 + UInt64.ofNat size))
  let blocks := if message.isEmpty then [[]] else Word.pieces 127 message
  ((absorb h 0 blocks).flatMap Word.littleEndian64).take size

end GroupAccess.Blake2b
