import ImageFs.Allocation.FirstFit
import ImageFs.Volume.Chain
import ImageFs.Volume.Guard

/-!
Handing out data blocks and taking them back. The bitmap, the free count and the cursor change
together under the cursor lock. Bit 0 stands for the anchor block and never changes.
-/

namespace ImageFs

namespace Volume

variable (volume : Volume)

/-! Handing out -/

/-- Writes the bitmap bytes from the lowest to the highest of the given bits. -/
def writeTouched (bits : List Nat) (bitmap : Bytes) : Update Unit :=
  match bits.min?, bits.max? with
  | some low, some high =>
      volume.writeBitmap (low / 8) ((bitmap.take (high / 8 + 1)).drop (low / 8))
  | _, _ => pure ()

/-- Clears the blocks and links each to the one behind it. -/
def linkFresh : List Nat → Update Unit
  | [] => pure ()
  | block :: rest => do
      volume.writeBlock block [] (rest.headD 0)
      linkFresh rest

/-- Takes `count` free blocks and returns them, cleared and linked in this order. When there are
fewer, nothing is written. -/
def allocate (count : Nat) : Update (List Nat) := do
  if count = 0 then return []
  volume.withCursor do
    let free ← volume.freeBlockCount
    if free < count then throw .noFreeBlocks
    let cursor ← volume.readCounter Superblock.nextFreeBlockOffset
    let bitmap ← volume.readBitmap
    match FirstFit.choose bitmap volume.geometry.blocks cursor count with
    | none => throw .noFreeBlocks
    | some choice =>
        volume.writeTouched choice.bits (choice.bits.foldl Bitmap.set bitmap)
        volume.writeCounter Superblock.freeBlocksOffset (free - count)
        volume.writeCounter Superblock.nextFreeBlockOffset choice.cursor
        let blocks := choice.bits.map volume.geometry.blockOfBit
        volume.linkFresh blocks
        return blocks

/-- The first of `count` fresh blocks, or zero for none. -/
def allocateFirst (count : Nat) : Update Nat :=
  (·.headD 0) <$> volume.allocate count

/-! Taking back -/

/-- Refuses blocks that are never handed out. -/
def checkFreeable : List Nat → Except FsError Unit
  | [] => .ok ()
  | block :: rest => do
      volume.checkDataBlock block
      if block - volume.geometry.dataStart < FirstFit.firstUsable then
        .error (.corrupt block .reservedBlock)
      else checkFreeable rest

/-- The bitmap without the bits of the blocks, each of which must be set when its turn comes. -/
def clearBits (bitmap : Bytes) : List Nat → Except FsError Bytes
  | [] => .ok bitmap
  | block :: rest =>
      let bit := block - volume.geometry.dataStart
      if Bitmap.get bitmap bit then clearBits (Bitmap.clear bitmap bit) rest
      else .error (.corrupt block .blockNotAllocated)

def unlinkAll : List Nat → Update Unit
  | [] => pure ()
  | block :: rest => do
      volume.linkBlock block 0
      unlinkAll rest

/-- Returns blocks to the free ones. All of them are judged before anything is written; the cursor
stays where it is. -/
def free (blocks : List Nat) : Update Unit := do
  if blocks.isEmpty then return
  volume.checkFreeable blocks
  volume.withCursor do
    let bitmap ← volume.readBitmap
    let cleared ← volume.clearBits bitmap blocks
    let count ← volume.freeBlockCount
    let after := count + blocks.length
    if volume.geometry.blocks ≤ after then
      throw (.corrupt 0 (.freeCountTooHigh count blocks.length))
    volume.writeTouched (blocks.map (· - volume.geometry.dataStart)) cleared
    volume.writeCounter Superblock.freeBlocksOffset after
    volume.unlinkAll blocks

/-- Frees a whole chain and tells how many blocks it had. -/
def freeChain (first : Nat) : Update Nat := do
  let chain ← volume.chain first
  volume.free chain
  return chain.length

/-- Cuts the last block off a chain and frees it; returns the new last block, if any is left. -/
def freeTail (first : Nat) : Update (Option Nat) := do
  let chain ← volume.chain first
  match chain.getLast? with
  | none => throw (.corrupt first .emptyChain)
  | some last =>
      let tail := chain.dropLast.getLast?
      if let some block := tail then
        volume.linkBlock block 0
      volume.free [last]
      return tail

/-! Fitting a chain to a length -/

/-- Appends fresh blocks until the chain holds `length` bytes. -/
def growChain (chain : List Nat) (length : Nat) : Update (List Nat) := do
  let needed := volume.geometry.blocksFor length
  if needed ≤ chain.length then return chain
  let fresh ← volume.allocate (needed - chain.length)
  if let some tail := chain.getLast? then
    volume.linkBlock tail (fresh.headD 0)
  return chain ++ fresh

/-- Frees the blocks that `length` bytes do not need. The chain that remains is returned with the
outcome, for it has been cut also when the freeing fails. -/
def shrinkChain (chain : List Nat) (length : Nat) : Update (Except FsError Unit × List Nat) := do
  let kept := volume.geometry.blocksFor length
  if chain.length ≤ kept then return (.ok (), chain)
  let outcome ← Update.attempt do
    if let some tail := (chain.take kept).getLast? then
      volume.linkBlock tail 0
    volume.free (chain.drop kept)
  return (outcome, chain.take kept)

end Volume

end ImageFs
