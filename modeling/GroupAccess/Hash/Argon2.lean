import GroupAccess.Hash.Argon2.Memory
import GroupAccess.Hash.Blake2b

namespace GroupAccess.Argon2

/-- Cost in kibibytes, passes and lanes, and the length of the output. -/
structure Params where
  memory : Nat
  passes : Nat
  lanes : Nat
  output : Nat
  data : List UInt8
  deriving DecidableEq, Repr

/-- What is not given in a stored hash. -/
def Params.default : Params := ⟨19456, 2, 1, 32, []⟩

structure Input where
  variant : Variant
  version : Version
  params : Params
  password : List UInt8
  salt : List UInt8
  secret : List UInt8

def word (n : Nat) : List UInt8 := Word.littleEndian32 (UInt32.ofNat n)

def field (bytes : List UInt8) : List UInt8 := word bytes.length ++ bytes

/-- The 64 bytes from which every block is grown. -/
def Input.seed (i : Input) : List UInt8 :=
  Blake2b.digest 64 <|
    word i.params.lanes ++ word i.params.output ++ word i.params.memory ++ word i.params.passes ++
      word i.version.number ++ word i.variant.code ++ field i.password ++ field i.salt ++
      field i.secret ++ field i.params.data

/-- The `size` bytes that follow the 64-byte digest `v`: half of it, and so on from its digest. -/
def stretch (size : Nat) (v : List UInt8) : List UInt8 :=
  if size ≤ 96 then v.take 32 ++ Blake2b.digest (size - 32) v
  else v.take 32 ++ stretch (size - 32) (Blake2b.digest 64 v)
termination_by size

def longDigest (size : Nat) (bytes : List UInt8) : List UInt8 :=
  if size ≤ 64 then Blake2b.digest size (word size ++ bytes)
  else stretch size (Blake2b.digest 64 (word size ++ bytes))

def Input.layout (i : Input) : Layout :=
  ⟨i.variant, i.version, i.params.passes, i.params.lanes,
    i.params.memory / (4 * i.params.lanes)⟩

/-- Memory with the first two blocks of each lane set. -/
def Input.start (i : Input) : Array Block :=
  let l := i.layout
  let seed := i.seed
  let block (lane n : Nat) : Block :=
    .ofWords (Word.ofLittleEndian64 (longDigest 1024 (seed ++ word n ++ word lane)))
  (List.range l.lanes).foldl
    (fun m lane =>
      (m.setIfInBounds (lane * l.lane) (block lane 0)).setIfInBounds (lane * l.lane + 1)
        (block lane 1))
    (Array.replicate l.blocks .zero)

def Input.digest (i : Input) : List UInt8 :=
  let l := i.layout
  let memory := l.fill i.start
  let last := (List.range l.lanes).foldl
    (fun b lane => b.xor (memory.getD (lane * l.lane + l.lane - 1) .zero)) Block.zero
  longDigest i.params.output (last.words.flatMap Word.littleEndian64)

end GroupAccess.Argon2
