import ImageFs.Directory
import ImageFs.Image.FileAction

/-!
Reading, writing and resizing through handles. Each operation holds the directory lock shared and
a lock on the file's inode record.
-/

namespace ImageFs

/-- Where a seek counts from. -/
inductive Origin where
  | start
  | current
  | stop
deriving DecidableEq, Repr

namespace Volume

variable (volume : Volume)

/-- Holds the directory lock and the lock on the inode of an open file. -/
def withOpenFile {α : Type} (file : OpenFile) (kind : LockKind) (body : Update α) : Update α :=
  volume.withDirectoryLock .shared (volume.withInode file.inode kind body)

/-- The inode of an open file. A file that was removed since it was opened is missing, also when
its slot holds a new file. -/
def liveInode (file : OpenFile) : Query Inode := do
  let inode ← volume.getInode file.inode
  if inode.kind ≠ .file ∨ inode.generation ≠ file.generation then
    throw (.noSuchFile file.name)
  return inode

/-- Reads up to `count` bytes at the offset of a handle, fewer at the end of the file. -/
def readFile (handle count : Nat) : FileAction Bytes := do
  let file ← FileAction.file handle
  let bytes ← volume.withOpenFile file .shared do
    let inode ← volume.liveInode file
    let length := min (inode.size.toNat - file.offset) count
    if length = 0 then return []
    let chain ← volume.chain inode.firstBlock.toNat
    volume.readChain chain file.offset length
  FileAction.setOffset handle (file.offset + bytes.length)
  return bytes

/-- Writes at the offset of a handle, or at the end of the file for an appending one. -/
def writeFile (handle : Nat) (bytes : Bytes) : FileAction Unit := do
  let file ← FileAction.file handle
  if !file.mode.canWrite then throw .wrongMode
  let stop ← volume.withOpenFile file .exclusive do
    let inode ← volume.liveInode file
    let offset := if file.mode = .append then inode.size.toNat else file.offset
    let stop := offset + bytes.length
    if Limit.word64 ≤ stop then throw (.misfit .writeOverflow)
    if bytes.isEmpty then return stop
    let chain ← volume.chain inode.firstBlock.toNat
    let chain ← volume.growChain chain stop
    volume.writeChain chain offset bytes
    volume.putInode file.inode { inode with
      size := UInt64.ofNat (max inode.size.toNat stop)
      firstBlock := UInt64.ofNat (chain.headD 0) }
    return stop
  FileAction.setOffset handle stop

/-- Moves the offset of a handle, at most to the end of the file, and returns it. -/
def seekFile (handle : Nat) (origin : Origin) (delta : Int) : FileAction Nat := do
  let file ← FileAction.file handle
  let position ← volume.withOpenFile file .shared do
    let inode ← volume.liveInode file
    let base :=
      match origin with
      | .start => 0
      | .current => file.offset
      | .stop => inode.size.toNat
    return min (base + delta).toNat inode.size.toNat
  FileAction.setOffset handle position
  return position

/-- Zeroes what a chain holds behind `length`, so that a later extension reads as zeros. -/
def clearBehind (chain : List Nat) (length : Nat) : Update Unit := do
  let capacity := volume.chainCapacity chain
  if capacity < length then Update.halt (.crashed (.negativeLength capacity length))
  if length < capacity then
    volume.writeChain chain length (.zeros (capacity - length))

/-- Cuts a file to `length` bytes or extends it with zeros. Offsets stay where they are. -/
def truncateFile (handle length : Nat) : FileAction Unit := do
  let file ← FileAction.file handle
  if !file.mode.canWrite then throw .wrongMode
  volume.withOpenFile file .exclusive do
    let inode ← volume.liveInode file
    if length = inode.size.toNat then return
    let chain ← volume.chain inode.firstBlock.toNat
    let resize : Update (List Nat) := do
      if length < inode.size.toNat then
        let (outcome, chain) ← volume.shrinkChain chain length
        outcome
        volume.clearBehind chain length
        return chain
      else volume.growChain chain length
    let chain ← resize
    volume.putInode file.inode { inode with
      size := UInt64.ofNat length
      firstBlock := UInt64.ofNat (chain.headD 0) }

end Volume

end ImageFs
