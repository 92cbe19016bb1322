import ImageFs.Geometry
import ImageFs.Record.Field

/-!
The superblock record: the magic number, the geometry and the allocation counters. Its fields lie
without gaps in the first 80 bytes of the image.
-/

namespace ImageFs

structure Superblock where
  magic : UInt32
  blockSize : UInt32
  blocks : UInt64
  freeBlocks : UInt64
  nextFreeBlock : UInt64
  bitmapBlocks : UInt64
  inodeTableBlocks : UInt64
  dataStart : UInt64
  firstInodeBlock : UInt64
  nextFreeInode : UInt64
  inodeCount : UInt64
deriving DecidableEq, Repr

namespace Superblock

def magicNumber : UInt32 := 0x4A5B

abbrev length : Nat := 80

/-! Offsets of the counters that change while an image lives -/

abbrev freeBlocksOffset : Nat := 16

abbrev nextFreeBlockOffset : Nat := 24

abbrev nextFreeInodeOffset : Nat := 64

/-- The superblock of a new image: the anchor block and the first two inodes are taken. -/
def fresh (geometry : Geometry) : Superblock where
  magic := magicNumber
  blockSize := UInt32.ofNat geometry.blockSize
  blocks := UInt64.ofNat geometry.blocks
  freeBlocks := UInt64.ofNat (geometry.blocks - 1)
  nextFreeBlock := if 1 < geometry.blocks then 1 else 0
  bitmapBlocks := UInt64.ofNat geometry.bitmapBlocks
  inodeTableBlocks := UInt64.ofNat geometry.inodeTableBlocks
  dataStart := UInt64.ofNat geometry.dataStart
  firstInodeBlock := UInt64.ofNat geometry.firstInodeBlock
  nextFreeInode := if 2 < geometry.inodeCount then 2 else 0
  inodeCount := UInt64.ofNat geometry.inodeCount

/-! The record -/

def fields (superblock : Superblock) : List (Nat × Bytes) :=
  [(0, .ofUInt32 superblock.magic),
    (4, .ofUInt32 superblock.blockSize),
    (8, .ofUInt64 superblock.blocks),
    (freeBlocksOffset, .ofUInt64 superblock.freeBlocks),
    (nextFreeBlockOffset, .ofUInt64 superblock.nextFreeBlock),
    (32, .ofUInt64 superblock.bitmapBlocks),
    (40, .ofUInt64 superblock.inodeTableBlocks),
    (48, .ofUInt64 superblock.dataStart),
    (56, .ofUInt64 superblock.firstInodeBlock),
    (nextFreeInodeOffset, .ofUInt64 superblock.nextFreeInode),
    (72, .ofUInt64 superblock.inodeCount)]

/-- The fields in a row. -/
def encode (superblock : Superblock) : Bytes :=
  superblock.fields.flatMap Prod.snd

@[simp] theorem length_encode (superblock : Superblock) : superblock.encode.length = length := by
  simp [encode, fields]

/-- Writes the fields into a region. A region that is too short keeps those that fit. -/
def writeTo (superblock : Superblock) (region : Bytes) : Except RecordError Unit × Bytes :=
  Field.writeAll superblock.fields region

/-- Reads the record. The magic number is judged before the rest is looked at. -/
def parse (region : Bytes) : Except RecordError Superblock := do
  let magic ← Field.readWord32 region 0
  if magic ≠ magicNumber then
    .error (.wrongMagic magicNumber.toNat magic.toNat)
  else
    let record ← Field.slice region 0 length
    return {
      magic
      blockSize := ← Field.readWord32 record 4
      blocks := ← Field.readWord64 record 8
      freeBlocks := ← Field.readWord64 record freeBlocksOffset
      nextFreeBlock := ← Field.readWord64 record nextFreeBlockOffset
      bitmapBlocks := ← Field.readWord64 record 32
      inodeTableBlocks := ← Field.readWord64 record 40
      dataStart := ← Field.readWord64 record 48
      firstInodeBlock := ← Field.readWord64 record 56
      nextFreeInode := ← Field.readWord64 record nextFreeInodeOffset
      inodeCount := ← Field.readWord64 record 72 }

/-! Agreement with a geometry -/

/-- The stored quantities that the geometry determines, by their field names. -/
def derivedFields (superblock : Superblock) (geometry : Geometry) : List (String × Nat × Nat) :=
  [("bitmap_blocks", superblock.bitmapBlocks.toNat, geometry.bitmapBlocks),
    ("inode_table_blocks", superblock.inodeTableBlocks.toNat, geometry.inodeTableBlocks),
    ("data_start", superblock.dataStart.toNat, geometry.dataStart),
    ("first_inode_table_block", superblock.firstInodeBlock.toNat, geometry.firstInodeBlock),
    ("inode_count", superblock.inodeCount.toNat, geometry.inodeCount)]

/-- Checks that the stored quantities are those of the geometry and that the free counters lie in
range. The first disagreement in field order is reported. -/
def agree (superblock : Superblock) (geometry : Geometry) : Except RecordError Unit :=
  match (superblock.derivedFields geometry).find? fun (_, stored, derived) => stored ≠ derived with
  | some (field, _, _) =>
      .error (.badField field "does not match geometry derived from block size and count")
  | none =>
      if superblock.blocks ≤ superblock.freeBlocks then
        .error (.badField "free_blocks" "exceeds usable data blocks")
      else if superblock.inodeCount ≤ superblock.nextFreeInode then
        .error (.badField "next_free_inode" "outside inode table")
      else .ok ()

end Superblock

end ImageFs
