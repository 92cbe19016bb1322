import ImageFs.Volume

/-!
Locks on the parts of an image: the allocation counters, one inode record, one data block. A part
is locked by the bytes that it lies in.
-/

namespace ImageFs.Volume

variable (volume : Volume) {α : Type}

/-- The cursor field of the superblock stands for the cursor, the free count and the bitmap. -/
def cursorRange : ByteRange where
  start := Superblock.nextFreeBlockOffset
  length := 8

def withCursor (body : Update α) : Update α :=
  volume.device.withLock cursorRange .exclusive body

def withInode (inode : Nat) (kind : LockKind) (body : Update α) : Update α := do
  let range ← volume.inodeRange inode
  volume.device.withLock range kind body

/-- The range that a lock on a data block takes. -/
def dataBlockRange (block : Nat) : Except FsError ByteRange := do
  volume.checkDataBlock block
  volume.blockRange block

def withBlock (block : Nat) (kind : LockKind) (body : Update α) : Update α := do
  let range ← volume.dataBlockRange block
  volume.device.withLock range kind body

end ImageFs.Volume
