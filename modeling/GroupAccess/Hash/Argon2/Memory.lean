import GroupAccess.Hash.Argon2.Block

/-!
Filling the memory. It is cut into lanes, a lane into four slices; the part of a lane in a slice
is a segment. A new block is mixed from the one before it and a referenced one, chosen by words
that depend on the data or, in independent addressing, only on the position.
-/

namespace GroupAccess.Argon2

inductive Variant
  | dataDependent
  | dataIndependent
  | hybrid
  deriving DecidableEq, Repr

def Variant.code : Variant → Nat
  | .dataDependent => 0
  | .dataIndependent => 1
  | .hybrid => 2

/-- Version 16 overwrites a block in later passes, version 19 adds to it. -/
inductive Version
  | v16
  | v19
  deriving DecidableEq, Repr

def Version.number : Version → Nat
  | .v16 => 16
  | .v19 => 19

structure Layout where
  variant : Variant
  version : Version
  passes : Nat
  lanes : Nat
  segment : Nat

def Layout.lane (l : Layout) : Nat := l.segment * 4

def Layout.blocks (l : Layout) : Nat := l.lane * l.lanes

structure Position where
  pass : Nat
  slice : Nat
  lane : Nat

def Layout.independent (l : Layout) (p : Position) : Bool :=
  match l.variant with
  | .dataDependent => false
  | .dataIndependent => true
  | .hybrid => p.pass == 0 && p.slice < 2

/-- Block `count` of the reference words of a segment. -/
def Layout.addresses (l : Layout) (p : Position) (count : Nat) : Block :=
  let input := Block.ofWords
    ([p.pass, p.lane, p.slice, l.blocks, l.passes, l.variant.code, count].map UInt64.ofNat)
  Block.zero.compress (Block.zero.compress input)

/-- How many blocks may be referenced from block `i` of a segment. -/
def Layout.area (l : Layout) (p : Position) (i : Nat) (sameLane : Bool) : Nat :=
  let before := if p.pass = 0 then p.slice * l.segment else l.lane - l.segment
  if sameLane then before + i - 1 else before - (if i = 0 then 1 else 0)

/-- As many as there are words of 32 bits. -/
def wordCount : Nat := 4294967296

/-- The place of the block that the word `word` refers to. -/
def Layout.reference (l : Layout) (p : Position) (i : Nat) (word : UInt64) : Nat :=
  let lane :=
    if p.pass = 0 ∧ p.slice = 0 then p.lane else (word >>> 32).toNat % l.lanes
  let area := l.area p i (lane == p.lane)
  let low := (word &&& 0xffffffff).toNat
  let square := low * low / wordCount
  let relative := area - 1 - area * square / wordCount
  let start := if p.pass ≠ 0 ∧ p.slice ≠ 3 then (p.slice + 1) * l.segment else 0
  lane * l.lane + (start + relative) % l.lane

/-- Fills the last `n` blocks of a segment. -/
def Layout.fillBlocks (l : Layout) (p : Position) :
    (n : Nat) → (address : Block) → (memory : Array Block) → Array Block
  | 0, _, memory => memory
  | n + 1, address, memory =>
    let i := l.segment - (n + 1)
    let place := p.lane * l.lane + p.slice * l.segment + i
    let before := if p.slice = 0 ∧ i = 0 then place + l.lane - 1 else place - 1
    let previous := memory.getD before .zero
    let independent := l.independent p
    let address :=
      if independent && i % 128 == 0 then l.addresses p (i / 128 + 1) else address
    let word := if independent then address.words.getD (i % 128) 0 else previous.r0.v0
    let mixed := previous.compress (memory.getD (l.reference p i word) .zero)
    let block :=
      if l.version = .v16 ∨ p.pass = 0 then mixed else mixed.xor (memory.getD place .zero)
    l.fillBlocks p n address (memory.setIfInBounds place block)

/-- Fills a segment; the first two blocks of a lane are given. -/
def Layout.fillSegment (l : Layout) (memory : Array Block) (p : Position) : Array Block :=
  if p.pass = 0 ∧ p.slice = 0 then
    l.fillBlocks p (l.segment - 2) (if l.independent p then l.addresses p 1 else .zero) memory
  else l.fillBlocks p l.segment .zero memory

/-- All segments in the order in which they are filled. -/
def Layout.positions (l : Layout) : List Position :=
  (List.range l.passes).flatMap fun pass =>
    (List.range 4).flatMap fun slice =>
      (List.range l.lanes).map fun lane => ⟨pass, slice, lane⟩

def Layout.fill (l : Layout) (memory : Array Block) : Array Block :=
  l.positions.foldl l.fillSegment memory

end GroupAccess.Argon2
