import ImageFs.Allocation
import ImageFs.DirectoryLock
import ImageFs.InodeTable
import ImageFs.Record.DirEntry

/-!
The tree of directories. A directory's byte stream is a row of entry records without gaps: an
entry is removed by moving the last one into its place. Lookups take no lock of their own; the
changes of the tree hold the directory lock exclusively.
-/

namespace ImageFs

/-- The records of a directory with the chain that they lie in. -/
structure Listing where
  chain : List Nat
  records : List Bytes
deriving DecidableEq, Repr

namespace Listing

/-- Cuts a byte string into `count` records. -/
def split : Nat → Bytes → List Bytes
  | 0, _ => []
  | count + 1, bytes => bytes.take recordLength :: split count (bytes.drop recordLength)

def firstBlock (listing : Listing) : Nat :=
  listing.chain.headD 0

/-- The slot of the first record with this name. -/
def find? (listing : Listing) (name : String) : Option Nat :=
  listing.records.findIdx? (DirEntry.hasName · name)

def decode (listing : Listing) (slot : Nat) : Except FsError DirEntry :=
  match listing.records[slot]? with
  | some record => (DirEntry.parse record).mapError (RecordError.toCorrupt listing.firstBlock)
  | none => .error (.corrupt listing.firstBlock (.entryMissing slot))

end Listing

namespace Volume

variable (volume : Volume)

/-! Lookups -/

def readListing (directory : Inode) : Query Listing := do
  let size := directory.size.toNat
  let first := directory.firstBlock.toNat
  if size % recordLength ≠ 0 then throw (.corrupt first (.directorySize size))
  let chain ← volume.chain first
  if Limit.buffer ≤ size then Query.halt (.crashed (.oversizedBuffer size))
  let bytes ← volume.readChain chain 0 size
  return { chain, records := Listing.split (size / recordLength) bytes }

/-- The inode number that a directory has for a name. -/
def lookup (directory : Inode) (name : String) : Query (Option Nat) := do
  let listing ← volume.readListing directory
  match listing.find? name with
  | none => return none
  | some slot =>
      let entry ← listing.decode slot
      return some entry.inode.toNat

/-- Follows names from an inode on. What is missing, empty or hidden, or is asked for a name
without being a directory, makes the whole `path` a missing file. -/
def walk (path : String) : List String → Inode → Nat → Query (Inode × Nat)
  | [], inode, number => pure (inode, number)
  | name :: rest, inode, _ => do
      if !inode.isDirectory then throw (.noSuchFile path)
      match ← volume.lookup inode name with
      | none => throw (.noSuchFile path)
      | some child =>
          if child = InodeNumber.anchor then throw (.noSuchFile path)
          let node ← volume.getInode child
          if node.isEmpty then throw (.noSuchFile path)
          walk path rest node child

def walkFromRoot (path : String) (names : List String) : Query (Inode × Nat) := do
  let root ← volume.getInode InodeNumber.root
  volume.walk path names root InodeNumber.root

/-- The inode that an absolute path names. -/
def resolve (path : String) : Query (Inode × Nat) := do
  let names ← Path.components path
  volume.walkFromRoot path names

/-- The entries of a directory in the order of storage. -/
def list (directory : Nat) : Query (List DirEntry) := do
  let inode ← volume.getInode directory
  if !inode.isDirectory then throw .notDirectory
  let listing ← volume.readListing inode
  (List.range listing.records.length).mapM (listing.decode ·)

/-! Creating -/

/-- Appends an entry to a directory. The last block of the directory stays locked meanwhile. -/
def appendEntry (directory : Nat) (name : String) (target : Nat) : Update Unit := do
  let inode ← volume.getInode directory
  let listing ← volume.readListing inode
  if (listing.find? name).isSome then throw .alreadyExists
  let record ← ({ name, inode := UInt64.ofNat target : DirEntry }.encode).mapError
    fun _ => FsError.nameTooLong
  let extend : Update Unit := do
    let size := inode.size.toNat + recordLength
    let chain ← volume.growChain listing.chain size
    volume.writeChain chain inode.size.toNat record
    volume.putInode directory
      { inode with size := UInt64.ofNat size, firstBlock := UInt64.ofNat (chain.headD 0) }
  match listing.chain.getLast? with
  | some tail => volume.withBlock tail .exclusive extend
  | none => extend

/-- The error for a parent that is no directory, by the kind of node to be made. -/
def missingParent (path : String) : InodeKind → FsError
  | .directory => .noParent path
  | _ => .noSuchDirectory path

/-- Makes an empty file or directory and enters it in its parent. An inode that cannot be entered
is given back. -/
def create (path : String) (kind : InodeKind) : Update Nat := do
  if kind = .empty then throw (.misfit .emptyKind)
  let (parents, name) ← Path.splitLast path
  volume.withDirectoryLock .exclusive do
    let (parent, parentNumber) ←
      try (volume.walkFromRoot path parents : Update (Inode × Nat))
      catch error =>
        match error with
        | .noSuchFile _ => throw (missingParent path kind)
        | error => throw error
    if !parent.isDirectory then throw (missingParent path kind)
    if (← volume.lookup parent name).isSome then throw .alreadyExists
    let number ← volume.insertInode (.new name kind)
    try volume.appendEntry parentNumber name number
    catch error =>
      let _ ← (volume.emptyInode number).attempt
      throw error
    return number

/-! Removing -/

/-- Removes a file or an empty directory, and frees its blocks and its inode. -/
def remove (path : String) : Update Unit := do
  let (parents, name) ← Path.splitLast path
  volume.withDirectoryLock .exclusive do
    let (parent, parentNumber) ← volume.walkFromRoot path parents
    if !parent.isDirectory then throw (.noSuchFile path)
    let listing ← volume.readListing parent
    match listing.find? name with
    | none => throw (.noSuchFile path)
    | some slot =>
        let entry ← listing.decode slot
        let number := entry.inode.toNat
        if InodeNumber.isReserved number then throw (.noSuchFile path)
        let target ← volume.getInode number
        if target.isDirectory ∧ 0 < target.size then throw .directoryNotEmpty
        if target.firstBlock ≠ 0 then
          let _ ← volume.freeChain target.firstBlock.toNat
        volume.emptyInode number
        let last := listing.records.length - 1
        if slot ≠ last then
          volume.writeChain listing.chain (slot * recordLength) (listing.records.getLastD [])
        volume.writeChain listing.chain (last * recordLength) (.zeros recordLength)
        let size := parent.size.toNat - recordLength
        let (outcome, chain) ← volume.shrinkChain listing.chain size
        outcome
        volume.putInode parentNumber
          { parent with size := UInt64.ofNat size, firstBlock := UInt64.ofNat (chain.headD 0) }

end Volume

end ImageFs
