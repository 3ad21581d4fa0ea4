namespace GroupAccess.Word

def bigEndian32 (w : UInt32) : List UInt8 :=
  [(w >>> 24).toUInt8, (w >>> 16).toUInt8, (w >>> 8).toUInt8, w.toUInt8]

def bigEndian64 (w : UInt64) : List UInt8 :=
  [(w >>> 56).toUInt8, (w >>> 48).toUInt8, (w >>> 40).toUInt8, (w >>> 32).toUInt8,
    (w >>> 24).toUInt8, (w >>> 16).toUInt8, (w >>> 8).toUInt8, w.toUInt8]

def littleEndian32 (w : UInt32) : List UInt8 := (bigEndian32 w).reverse

def littleEndian64 (w : UInt64) : List UInt8 := (bigEndian64 w).reverse

/-- Words from groups of four bytes, first byte highest; an incomplete group is dropped. -/
def ofBigEndian32 : List UInt8 → List UInt32
  | a :: b :: c :: d :: rest =>
    ((a.toUInt32 <<< 24) ||| (b.toUInt32 <<< 16) ||| (c.toUInt32 <<< 8) ||| d.toUInt32)
      :: ofBigEndian32 rest
  | _ => []

/-- Words from groups of eight bytes, first byte lowest; an incomplete group is dropped. -/
def ofLittleEndian64 : List UInt8 → List UInt64
  | a :: b :: c :: d :: e :: f :: g :: h :: rest =>
    (a.toUInt64 ||| (b.toUInt64 <<< 8) ||| (c.toUInt64 <<< 16) ||| (d.toUInt64 <<< 24) |||
      (e.toUInt64 <<< 32) ||| (f.toUInt64 <<< 40) ||| (g.toUInt64 <<< 48) ||| (h.toUInt64 <<< 56))
      :: ofLittleEndian64 rest
  | _ => []

/-- Cuts a list into pieces of `n + 1` elements; the last may be shorter. -/
def pieces {α : Type} (n : Nat) (xs : List α) : List (List α) :=
  match xs with
  | [] => []
  | x :: rest => (x :: rest.take n) :: pieces n (rest.drop n)
termination_by xs.length
decreasing_by simp only [List.length_drop, List.length_cons]; omega

end GroupAccess.Word
