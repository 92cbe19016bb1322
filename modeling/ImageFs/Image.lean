import ImageFs.Image.Check
import ImageFs.Image.FileAccess

/-!
An opened image: its volume and its table of open files, and all that can be asked of it.
-/

namespace ImageFs

structure Image where
  volume : Volume
  files : OpenFiles
deriving DecidableEq, Repr

/-! Answers -/

inductive FileKind where
  | file
  | directory
deriving DecidableEq, Repr

def FileKind.toInodeKind : FileKind → InodeKind
  | file => .file
  | directory => .directory

def FileKind.ofInodeKind? : InodeKind → Option FileKind
  | .file => some file
  | .directory => some directory
  | .empty => none

structure FileStat where
  inode : Nat
  name : String
  kind : FileKind
  size : Nat
  blocks : Nat
deriving DecidableEq, Repr

structure ListedEntry where
  name : String
  inode : Nat
  kind : FileKind
  size : Nat
deriving DecidableEq, Repr

structure Usage where
  blockSize : Nat
  totalBlocks : Nat
  freeBlocks : Nat
  dataStart : Nat
  inodeCount : Nat
  freeInodes : Nat
  nextFreeBlock : Nat
  nextFreeInode : Nat
  holders : Nat
deriving DecidableEq, Repr

namespace Volume

variable (volume : Volume)

/-! Files by path -/

/-- Opens a file; the new handle stands at its start. -/
def openFile (path : String) (mode : AccessMode) : FileAction Nat := do
  let (inode, number) ← volume.withDirectoryLock .shared (volume.resolve path : Update _)
  if inode.isDirectory then throw .isDirectory
  FileAction.insert
    { inode := number, generation := inode.generation, name := inode.name, offset := 0, mode }

def statInode (number : Nat) (inode : Inode) : Query FileStat :=
  match FileKind.ofInodeKind? inode.kind with
  | none => throw (.corrupt (volume.geometry.inodeBlock number) (.inodeEmpty number))
  | some kind => do
      let chain ← volume.chain inode.firstBlock.toNat
      return {
        inode := number
        name := inode.name
        kind
        size := inode.size.toNat
        blocks := chain.length }

def statPath (path : String) : Query FileStat := do
  let (inode, number) ← volume.resolve path
  volume.statInode number inode

def stat (path : String) : Update FileStat :=
  volume.withDirectoryLock .shared (volume.statPath path : Update _)

def listedEntry (entry : DirEntry) : Query ListedEntry := do
  let number := entry.inode.toNat
  let inode ← volume.getInode number
  match FileKind.ofInodeKind? inode.kind with
  | none =>
      throw (.corrupt (volume.geometry.inodeBlock number) (.entryDangling entry.name number))
  | some kind => return { name := entry.name, inode := number, kind, size := inode.size.toNat }

def listPath (path : String) : Query (List ListedEntry) := do
  let (inode, number) ← volume.resolve path
  if !inode.isDirectory then throw .notDirectory
  let entries ← volume.list number
  entries.mapM volume.listedEntry

/-- The entries of a directory in the order of storage. -/
def readDirectory (path : String) : Update (List ListedEntry) :=
  volume.withDirectoryLock .shared (volume.listPath path : Update _)

/-! The image as a whole -/

def usageGiven (holders : Nat) : Query Usage := do
  let geometry := volume.geometry
  let live ← volume.liveInodes
  return {
    blockSize := geometry.blockSize
    totalBlocks := geometry.blocks
    freeBlocks := ← volume.freeBlockCount
    dataStart := geometry.dataStart
    inodeCount := geometry.inodeCount
    freeInodes := geometry.inodeCount - live.length
    nextFreeBlock := ← volume.readCounter Superblock.nextFreeBlockOffset
    nextFreeInode := ← volume.readCounter Superblock.nextFreeInodeOffset
    holders }

/-- The usage of the image. The holders are counted before this call becomes one of them. -/
def usage : Update Usage := do
  let lock ← DirectoryLock.ofVolume volume
  let holders ← lock.holders
  volume.withDirectoryLock .shared (volume.usageGiven holders : Update _)

end Volume

namespace Image

/-- Opens the image behind a device. The file must be long enough for its superblock, then for the
whole image. -/
def ofDevice (path : String) (device : Device) : Query Image := do
  if device.length < Superblock.length then throw (.misfit (.noSuperblock path))
  let region ← device.read 0 Superblock.length
  let superblock ← (Superblock.parse region).mapError RecordError.toMisfit
  let geometry ← Geometry.ofSizes superblock.blockSize superblock.blocks
  (superblock.agree geometry).mapError RecordError.toMisfit
  let volume ← Volume.ofDevice device geometry
  return { volume, files := .empty }

/-! Operations -/

inductive Operation where
  | create (path : String) (kind : FileKind)
  | remove (path : String)
  | openFile (path : String) (mode : AccessMode)
  | closeFile (handle : Nat)
  | read (handle count : Nat)
  | write (handle : Nat) (bytes : Bytes)
  | seek (handle : Nat) (origin : Origin) (delta : Int)
  | truncate (handle length : Nat)
  | stat (path : String)
  | readDirectory (path : String)
  | usage
  | check
deriving DecidableEq, Repr

inductive Answer where
  | done
  | handle (handle : Nat)
  | bytes (bytes : Bytes)
  | position (offset : Nat)
  | stat (stat : FileStat)
  | entries (entries : List ListedEntry)
  | usage (usage : Usage)
  | report (report : CheckReport)
deriving DecidableEq, Repr

namespace Operation

/-- What an operation does where no number may leave the range of its type unnoticed. -/
def action (volume : Volume) : Operation → FileAction Answer
  | create path kind => do
      let _ ← (volume.create path kind.toInodeKind : Update Nat)
      return .done
  | remove path => do
      (volume.remove path : Update Unit)
      return .done
  | openFile path mode => .handle <$> volume.openFile path mode
  | closeFile handle => do
      FileAction.remove handle
      return .done
  | read handle count => .bytes <$> volume.readFile handle count
  | write handle bytes => do
      volume.writeFile handle bytes
      return .done
  | seek handle origin delta => .position <$> volume.seekFile handle origin delta
  | truncate handle length => do
      volume.truncateFile handle length
      return .done
  | stat path => do return .stat (← volume.stat path)
  | readDirectory path => do return .entries (← volume.readDirectory path)
  | usage => do return .usage (← volume.usage)
  | check => do return .report (← volume.check .breaks)

end Operation

/-- Performs an operation on an image and its backing file. -/
def perform (image : Image) (operation : Operation) (backing : Backing) :
    Except Halt Answer × Image × Backing :=
  match operation.action image.volume image.files backing with
  | (answer, files, after) => (answer, { image with files }, after)

end Image

end ImageFs
