import ImageFs.Volume

/-!
The metadata of a new image: the superblock, the root directory, the anchor file and the bit of its
block.
-/

namespace ImageFs

namespace InodeNumber

def root : Nat := 0

/-- The hidden file whose block counts the holders of the directory lock. -/
def anchor : Nat := 1

def firstFree : Nat := 2

def isReserved (inode : Nat) : Bool :=
  inode < firstFree

theorem not_isReserved {inode : Nat} (free : firstFree ≤ inode) : ¬ isReserved inode = true := by
  simpa [isReserved] using free

end InodeNumber

namespace Volume

def rootInode : Inode :=
  .new "/" .directory

def anchorInode (geometry : Geometry) : Inode :=
  { Inode.new ".anchor" .file with
    size := UInt64.ofNat linkLength
    firstBlock := UInt64.ofNat geometry.anchorBlock }

variable (volume : Volume)

def writeInode (number : Nat) (inode : Inode) : Update Unit := do
  let record ← inode.encode.mapError (RecordError.toCorrupt (volume.geometry.inodeBlock number))
  volume.writeInodeRecord number record

/-- Lays the metadata down on a file of zeros. -/
def format : Update Unit := do
  volume.writeSuperblock (.fresh volume.geometry)
  volume.writeInode InodeNumber.root rootInode
  volume.writeInode InodeNumber.anchor (anchorInode volume.geometry)
  volume.clearBlock volume.geometry.anchorBlock
  volume.writeBitmap 0 [1]

end Volume

end ImageFs
