import ImageFs.Error

/-!
The geometry of an image: the superblock in block 0, then the block bitmap, the inode table and the
data blocks. All follows from the block size and the number of data blocks.
-/

namespace ImageFs

def ceilDiv (n unit : Nat) : Nat :=
  (n + unit - 1) / unit

/-- The bytes of an inode record, and of a directory entry. -/
abbrev recordLength : Nat := 256

/-- The bytes at the end of a data block that name the next block. -/
abbrev linkLength : Nat := 8

/-! Derived quantities -/

namespace Sizes

variable (blockSize blocks : Nat)

def bitmapBlocks : Nat :=
  ceilDiv blocks (blockSize * 8)

def inodesPerBlock : Nat :=
  blockSize / recordLength

def inodeTableBlocks : Nat :=
  ceilDiv blocks (inodesPerBlock blockSize)

def firstInodeBlock : Nat :=
  1 + bitmapBlocks blockSize blocks

def dataStart : Nat :=
  firstInodeBlock blockSize blocks + inodeTableBlocks blockSize blocks

def totalBlocks : Nat :=
  dataStart blockSize blocks + blocks

end Sizes

/-- A block size and a number of data blocks whose image can be addressed byte by byte. -/
structure Geometry where
  blockSize : Nat
  blocks : Nat
  minimum_le : 1024 ≤ blockSize
  even : blockSize % recordLength = 0
  blockSize_lt : blockSize < Limit.word32
  blocks_pos : 0 < blocks
  addressable : Sizes.totalBlocks blockSize blocks * blockSize < Limit.word64
deriving DecidableEq, Repr

namespace Geometry

/-- The geometry of the given sizes. The block size is judged before the number of blocks. -/
def ofSizes (blockSize : UInt32) (blocks : UInt64) : Except FsError Geometry :=
  if small : blockSize.toNat < 1024 then .error (.blockSizeTooSmall blockSize.toNat)
  else if uneven : blockSize.toNat % recordLength ≠ 0 then
    .error (.blockSizeUneven blockSize.toNat)
  else if vacant : blocks.toNat = 0 then .error .noBlocks
  else if fits :
      Sizes.totalBlocks blockSize.toNat blocks.toNat * blockSize.toNat < Limit.word64 then
    .ok {
      blockSize := blockSize.toNat
      blocks := blocks.toNat
      minimum_le := by omega
      even := by omega
      blockSize_lt := blockSize.toNat_lt
      blocks_pos := by omega
      addressable := fits }
  else .error (.misfit (.addressSpace blocks.toNat blockSize.toNat))

variable (geometry : Geometry)

def bitmapBlocks : Nat :=
  Sizes.bitmapBlocks geometry.blockSize geometry.blocks

def inodesPerBlock : Nat :=
  Sizes.inodesPerBlock geometry.blockSize

def inodeTableBlocks : Nat :=
  Sizes.inodeTableBlocks geometry.blockSize geometry.blocks

def firstInodeBlock : Nat :=
  Sizes.firstInodeBlock geometry.blockSize geometry.blocks

def dataStart : Nat :=
  Sizes.dataStart geometry.blockSize geometry.blocks

def totalBlocks : Nat :=
  Sizes.totalBlocks geometry.blockSize geometry.blocks

def inodeCount : Nat :=
  geometry.inodeTableBlocks * geometry.inodesPerBlock

/-- The length of the image in bytes. -/
def imageLength : Nat :=
  geometry.totalBlocks * geometry.blockSize

/-- The bytes of a data block that hold content. -/
def payloadSize : Nat :=
  geometry.blockSize - linkLength

/-- How many chained data blocks hold `length` bytes. -/
def blocksFor (length : Nat) : Nat :=
  ceilDiv length geometry.payloadSize

/-- The bitmap starts with block 1. -/
def bitmapOffset : Nat :=
  geometry.blockSize

/-- The bitmap bytes that carry bits; the rest of the bitmap blocks is padding. -/
def bitmapLength : Nat :=
  ceilDiv geometry.blocks 8

def blockOffset? (block : Nat) : Option Nat :=
  if block < geometry.totalBlocks then some (block * geometry.blockSize) else none

def inodeOffset? (inode : Nat) : Option Nat :=
  if inode < geometry.inodeCount then
    some (geometry.firstInodeBlock * geometry.blockSize + inode * recordLength)
  else none

/-- The block that holds the record of an inode. -/
def inodeBlock (inode : Nat) : Nat :=
  geometry.firstInodeBlock + inode / geometry.inodesPerBlock

/-- The block that a bit of the bitmap stands for. -/
def blockOfBit (bit : Nat) : Nat :=
  geometry.dataStart + bit

def bitOfBlock? (block : Nat) : Option Nat :=
  if geometry.dataStart ≤ block ∧ block < geometry.totalBlocks then
    some (block - geometry.dataStart)
  else none

/-- The first data block is never handed out. It belongs to the anchor file, and its first bytes
count the holders of the directory lock. -/
def anchorBlock : Nat :=
  geometry.dataStart

end Geometry

end ImageFs
