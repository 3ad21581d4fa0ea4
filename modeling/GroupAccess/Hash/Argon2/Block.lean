import GroupAccess.Bytes.Word

namespace GroupAccess.Argon2

structure Row where
  v0 : UInt64
  v1 : UInt64
  v2 : UInt64
  v3 : UInt64
  v4 : UInt64
  v5 : UInt64
  v6 : UInt64
  v7 : UInt64
  v8 : UInt64
  v9 : UInt64
  v10 : UInt64
  v11 : UInt64
  v12 : UInt64
  v13 : UInt64
  v14 : UInt64
  v15 : UInt64

def Row.zero : Row := ⟨0, 0, 0, 0, 0, 0, 0, 0, 0, 0, 0, 0, 0, 0, 0, 0⟩

def Row.xor (x y : Row) : Row :=
  ⟨x.v0 ^^^ y.v0, x.v1 ^^^ y.v1, x.v2 ^^^ y.v2, x.v3 ^^^ y.v3,
    x.v4 ^^^ y.v4, x.v5 ^^^ y.v5, x.v6 ^^^ y.v6, x.v7 ^^^ y.v7,
    x.v8 ^^^ y.v8, x.v9 ^^^ y.v9, x.v10 ^^^ y.v10, x.v11 ^^^ y.v11,
    x.v12 ^^^ y.v12, x.v13 ^^^ y.v13, x.v14 ^^^ y.v14, x.v15 ^^^ y.v15⟩

def Row.words (r : Row) : List UInt64 :=
  [r.v0, r.v1, r.v2, r.v3, r.v4, r.v5, r.v6, r.v7,
    r.v8, r.v9, r.v10, r.v11, r.v12, r.v13, r.v14, r.v15]

/-- The first sixteen words; missing ones are zero. -/
def Row.ofWords (ws : List UInt64) : Row :=
  let w (i : Nat) : UInt64 := ws.getD i 0
  ⟨w 0, w 1, w 2, w 3, w 4, w 5, w 6, w 7, w 8, w 9, w 10, w 11, w 12, w 13, w 14, w 15⟩

@[inline] def rotr (x : UInt64) (n : UInt64) : UInt64 := (x >>> n) ||| (x <<< (64 - n))

/-- Addition hardened by twice the product of the low halves. -/
@[inline] def addMul (x y : UInt64) : UInt64 :=
  x + y + 2 * ((x &&& 0xffffffff) * (y &&& 0xffffffff))

@[inline] def quarter {α : Type} (a b c d : UInt64)
    (next : UInt64 → UInt64 → UInt64 → UInt64 → α) : α :=
  let a := addMul a b
  let d := rotr (d ^^^ a) 32
  let c := addMul c d
  let b := rotr (b ^^^ c) 24
  let a := addMul a b
  let d := rotr (d ^^^ a) 16
  let c := addMul c d
  let b := rotr (b ^^^ c) 63
  next a b c d

/-- One round over a row read as a four by four square: its columns, then its diagonals. -/
def Row.permute (r : Row) : Row :=
  quarter r.v0 r.v4 r.v8 r.v12 fun v0 v4 v8 v12 =>
  quarter r.v1 r.v5 r.v9 r.v13 fun v1 v5 v9 v13 =>
  quarter r.v2 r.v6 r.v10 r.v14 fun v2 v6 v10 v14 =>
  quarter r.v3 r.v7 r.v11 r.v15 fun v3 v7 v11 v15 =>
  quarter v0 v5 v10 v15 fun v0 v5 v10 v15 =>
  quarter v1 v6 v11 v12 fun v1 v6 v11 v12 =>
  quarter v2 v7 v8 v13 fun v2 v7 v8 v13 =>
  quarter v3 v4 v9 v14 fun v3 v4 v9 v14 =>
  ⟨v0, v1, v2, v3, v4, v5, v6, v7, v8, v9, v10, v11, v12, v13, v14, v15⟩

/-- A memory block of 1024 bytes: eight rows of sixteen words, or sixty-four pairs of words. -/
structure Block where
  r0 : Row
  r1 : Row
  r2 : Row
  r3 : Row
  r4 : Row
  r5 : Row
  r6 : Row
  r7 : Row

def Block.zero : Block :=
  ⟨.zero, .zero, .zero, .zero, .zero, .zero, .zero, .zero⟩

@[inline] def Block.map (f : Row → Row) (b : Block) : Block :=
  ⟨f b.r0, f b.r1, f b.r2, f b.r3, f b.r4, f b.r5, f b.r6, f b.r7⟩

def Block.xor (x y : Block) : Block :=
  ⟨x.r0.xor y.r0, x.r1.xor y.r1, x.r2.xor y.r2, x.r3.xor y.r3,
    x.r4.xor y.r4, x.r5.xor y.r5, x.r6.xor y.r6, x.r7.xor y.r7⟩

@[inline] def Block.column (f g : Row → UInt64) (b : Block) : Row :=
  ⟨f b.r0, g b.r0, f b.r1, g b.r1, f b.r2, g b.r2, f b.r3, g b.r3,
    f b.r4, g b.r4, f b.r5, g b.r5, f b.r6, g b.r6, f b.r7, g b.r7⟩

/-- Swaps pair `j` of row `i` with pair `i` of row `j`. -/
def Block.transpose (b : Block) : Block :=
  ⟨b.column (·.v0) (·.v1), b.column (·.v2) (·.v3), b.column (·.v4) (·.v5),
    b.column (·.v6) (·.v7), b.column (·.v8) (·.v9), b.column (·.v10) (·.v11),
    b.column (·.v12) (·.v13), b.column (·.v14) (·.v15)⟩

/-- Permutes the rows, then the columns of pairs, of the sum of two blocks. -/
def Block.compress (x y : Block) : Block :=
  let sum := x.xor y
  ((sum.map Row.permute).transpose.map Row.permute).transpose.xor sum

def Block.words (b : Block) : List UInt64 :=
  [b.r0, b.r1, b.r2, b.r3, b.r4, b.r5, b.r6, b.r7].flatMap Row.words

/-- The first 128 words; missing ones are zero. -/
def Block.ofWords (ws : List UInt64) : Block :=
  let row (i : Nat) : Row := .ofWords (ws.drop (16 * i))
  ⟨row 0, row 1, row 2, row 3, row 4, row 5, row 6, row 7⟩

end GroupAccess.Argon2
