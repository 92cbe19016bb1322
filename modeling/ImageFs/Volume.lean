import ImageFs.Device
import ImageFs.Record.Inode
import ImageFs.Record.Superblock

/-!
An image on an open host file: the superblock, the bitmap, the inode records and the data blocks
at the places that the geometry gives them. Nothing is cached, so all parties on the file see the
same bytes.
-/

namespace ImageFs

structure Volume where
  device : Device
  geometry : Geometry
  fits : geometry.imageLength ≤ device.length
deriving DecidableEq, Repr

namespace Volume

/-- The volume of a device, which must be long enough for the geometry. -/
def ofDevice (device : Device) (geometry : Geometry) : Except FsError Volume :=
  if fits : geometry.imageLength ≤ device.length then .ok { device, geometry, fits }
  else .error (.misfit (.fileTooShort device.length geometry.imageLength))

variable (volume : Volume)

def blockOffset (block : Nat) : Except FsError Nat :=
  match volume.geometry.blockOffset? block with
  | some offset => .ok offset
  | none => .error (.corrupt block (.beyondImage volume.geometry.totalBlocks))

/-- Refuses a block outside the data area. -/
def checkDataBlock (block : Nat) : Except FsError Unit :=
  match volume.geometry.bitOfBlock? block with
  | some _ => .ok ()
  | none =>
      .error (.corrupt block
        (.notDataBlock volume.geometry.dataStart volume.geometry.totalBlocks))

def blockRange (block : Nat) : Except FsError ByteRange := do
  let start ← volume.blockOffset block
  return { start, length := volume.geometry.blockSize }

/-! The superblock -/

def readSuperblock : Query Superblock := do
  let region ← volume.device.read 0 Superblock.length
  (Superblock.parse region).mapError (RecordError.toCorrupt 0)

def writeSuperblock (superblock : Superblock) : Update Unit :=
  volume.device.write 0 superblock.encode

/-- Reads a counter of the superblock by its offset. -/
def readCounter (offset : Nat) : Query Nat :=
  volume.device.readWord offset

def writeCounter (offset value : Nat) : Update Unit :=
  volume.device.writeWord offset value

def freeBlockCount : Query Nat :=
  volume.readCounter Superblock.freeBlocksOffset

/-! The bitmap -/

def readBitmap : Query Bytes :=
  volume.device.read volume.geometry.bitmapOffset volume.geometry.bitmapLength

/-- Writes bitmap bytes from `start` on. -/
def writeBitmap (start : Nat) (bytes : Bytes) : Update Unit := do
  if volume.geometry.bitmapLength < start + bytes.length then
    throw (.corrupt 1 (.bitmapRange start bytes.length))
  volume.device.write (volume.geometry.bitmapOffset + start) bytes

def readBitmapByte (index : Nat) : Query UInt8 := do
  if volume.geometry.bitmapLength ≤ index then
    throw (.corrupt 1 (.bitmapByte index))
  let bytes ← volume.device.read (volume.geometry.bitmapOffset + index) 1
  return bytes.headD 0

/-! Inode records -/

def inodeOffset (inode : Nat) : Except FsError Nat :=
  match volume.geometry.inodeOffset? inode with
  | some offset => .ok offset
  | none =>
      .error (.corrupt volume.geometry.firstInodeBlock
        (.outsideTable inode volume.geometry.inodeCount))

def readInodeRecord (inode : Nat) : Query Bytes := do
  let offset ← volume.inodeOffset inode
  volume.device.read offset recordLength

def writeInodeRecord (inode : Nat) (record : Bytes) : Update Unit := do
  let offset ← volume.inodeOffset inode
  volume.device.write offset record

def inodeRange (inode : Nat) : Except FsError ByteRange := do
  let start ← volume.inodeOffset inode
  return { start, length := recordLength }

/-! Data blocks -/

def linkOffset (block : Nat) : Except FsError Nat := do
  volume.checkDataBlock block
  let start ← volume.blockOffset block
  return start + volume.geometry.payloadSize

/-- The payload of a block, and the next block of its chain. -/
def readBlock (block : Nat) : Query (Bytes × Nat) := do
  volume.checkDataBlock block
  let start ← volume.blockOffset block
  let bytes ← volume.device.read start volume.geometry.blockSize
  return (bytes.take volume.geometry.payloadSize,
    Bytes.toNat (bytes.drop volume.geometry.payloadSize))

/-- Overwrites a block by a payload, which is padded with zeros, and a link. -/
def writeBlock (block : Nat) (payload : Bytes) (next : Nat) : Update Unit := do
  volume.checkDataBlock block
  if volume.geometry.payloadSize < payload.length then
    throw (.misfit (.payloadTooLong payload.length volume.geometry.payloadSize))
  let start ← volume.blockOffset block
  volume.device.write start
    (payload ++ .zeros (volume.geometry.payloadSize - payload.length) ++ .ofNat linkLength next)

def clearBlock (block : Nat) : Update Unit :=
  volume.writeBlock block [] 0

def nextBlock (block : Nat) : Query Nat := do
  let offset ← volume.linkOffset block
  volume.device.readWord offset

def linkBlock (block next : Nat) : Update Unit := do
  let offset ← volume.linkOffset block
  volume.device.writeWord offset next

end Volume

end ImageFs
