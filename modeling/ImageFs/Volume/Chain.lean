import ImageFs.Volume

/-!
Chains of linked data blocks, and the byte stream that their payloads form. Block number zero ends
a chain: it is the superblock and so never part of one.
-/

namespace ImageFs.Volume

variable (volume : Volume)

/-! Walking a chain -/

/-- The blocks from `current` on, of which there may be at most `budget` many. -/
def walkChain (first : Nat) : Nat → Nat → Query (List Nat)
  | budget, current =>
      if current = 0 then pure []
      else do
        volume.checkDataBlock current
        match budget with
        | 0 => throw (.corrupt current (.chainLoops first))
        | budget + 1 =>
            let next ← volume.nextBlock current
            let rest ← walkChain first budget next
            return current :: rest

/-- The blocks of the chain that starts at `first`. A chain with more blocks than the image has
runs in a circle. -/
def chain (first : Nat) : Query (List Nat) :=
  volume.walkChain first volume.geometry.blocks first

end Volume

/-! Pieces of the byte stream -/

/-- Part of a block's payload. -/
structure Piece where
  block : Nat
  start : Nat
  length : Nat
deriving DecidableEq, Repr

/-- The pieces that hold `length` bytes from `offset` on, in the stream of the given blocks with
`payload` bytes each. -/
def Piece.cover (payload : Nat) : List Nat → Nat → Nat → List Piece
  | [], _, _ => []
  | block :: rest, offset, length =>
      if length = 0 then []
      else if payload ≤ offset then cover payload rest (offset - payload) length
      else
        let here := min (payload - offset) length
        { block, start := offset, length := here } :: cover payload rest 0 (length - here)

namespace Volume

variable (volume : Volume)

def chainCapacity (chain : List Nat) : Nat :=
  chain.length * volume.geometry.payloadSize

/-- The pieces of a byte range, which must lie within the capacity of the chain. -/
def pieces (chain : List Nat) (offset length : Nat) : Except FsError (List Piece) :=
  let stop := min (offset + length) (Limit.word64 - 1)
  if volume.chainCapacity chain < stop then
    .error (.corrupt (chain.getLast?.getD 0)
      (.beyondChain offset stop (volume.chainCapacity chain)))
  else .ok (Piece.cover volume.geometry.payloadSize chain offset length)

def readPieces : List Piece → Query Bytes
  | [] => pure []
  | piece :: rest => do
      let start ← volume.blockOffset piece.block
      let bytes ← volume.device.read (start + piece.start) piece.length
      let others ← readPieces rest
      return bytes ++ others

def writePieces : List Piece → Bytes → Update Unit
  | [], _ => pure ()
  | piece :: rest, bytes => do
      let start ← volume.blockOffset piece.block
      volume.device.write (start + piece.start) (bytes.take piece.length)
      writePieces rest (bytes.drop piece.length)

/-- Reads from the byte stream of a chain. -/
def readChain (chain : List Nat) (offset length : Nat) : Query Bytes := do
  let pieces ← volume.pieces chain offset length
  volume.readPieces pieces

/-- Writes into the byte stream of a chain; the bytes around the range stay as they are. -/
def writeChain (chain : List Nat) (offset : Nat) (bytes : Bytes) : Update Unit := do
  let pieces ← volume.pieces chain offset bytes.length
  volume.writePieces pieces bytes

end Volume

end ImageFs
