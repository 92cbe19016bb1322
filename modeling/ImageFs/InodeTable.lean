import ImageFs.Path
import ImageFs.Volume.Format

/-!
The inode table as numbered slots. A cursor in the superblock names the lowest empty slot, zero
when the table is full; slots 0 and 1 are never emptied.
-/

namespace ImageFs.Volume

variable (volume : Volume)

def getInode (number : Nat) : Query Inode := do
  let record ← volume.readInodeRecord number
  (Inode.parse record).mapError (RecordError.toCorrupt (volume.geometry.inodeBlock number))

def putInode (number : Nat) (inode : Inode) : Update Unit := do
  if Path.maxNameLength < (Text.bytesOf inode.name).length then throw .nameTooLong
  volume.writeInode number inode

/-- The first empty slot among `count` many from `number` on, or zero. -/
def findEmpty : Nat → Nat → Query Nat
  | 0, _ => pure 0
  | count + 1, number => do
      let inode ← volume.getInode number
      if inode.isEmpty then return number
      findEmpty count (number + 1)

/-- Stores an inode in the slot at the cursor and moves the cursor to the next empty slot. The
slot keeps its generation. -/
def insertInode (inode : Inode) : Update Nat := do
  let cursor ← volume.readCounter Superblock.nextFreeInodeOffset
  if cursor = 0 then throw .noFreeInodes
  let block := volume.geometry.inodeBlock cursor
  if InodeNumber.isReserved cursor then throw (.corrupt block (.cursorReserved cursor))
  let slot ← volume.getInode cursor
  if !slot.isEmpty then throw (.corrupt block (.cursorLive cursor))
  volume.putInode cursor { inode with generation := slot.generation }
  let next ← volume.findEmpty (volume.geometry.inodeCount - (cursor + 1)) (cursor + 1)
  volume.writeCounter Superblock.nextFreeInodeOffset next
  return cursor

/-- Empties a slot, counts its generation up, and moves the cursor down to it. -/
def emptyInode (number : Nat) : Update Unit := do
  if InodeNumber.isReserved number then
    throw (.corrupt (volume.geometry.inodeBlock number) (.inodeReserved number))
  let inode ← volume.getInode number
  volume.putInode number { Inode.empty with generation := inode.generation + 1 }
  let cursor ← volume.readCounter Superblock.nextFreeInodeOffset
  if cursor = 0 ∨ number < cursor then
    volume.writeCounter Superblock.nextFreeInodeOffset number

/-- The inodes of `count` slots from `number` on that are not empty. -/
def liveFrom : Nat → Nat → Query (List (Nat × Inode))
  | 0, _ => pure []
  | count + 1, number => do
      let inode ← volume.getInode number
      let rest ← liveFrom count (number + 1)
      return if inode.isEmpty then rest else (number, inode) :: rest

def liveInodes : Query (List (Nat × Inode)) :=
  volume.liveFrom volume.geometry.inodeCount 0

end ImageFs.Volume
