import ImageFs.Directory

/-!
The consistency check of an image. What is wrong with the metadata becomes a finding; only errors
of other kinds end the check.
-/

namespace ImageFs

inductive Finding where
  | superblockUnreadable (damage : Damage)
  | superblockField (error : RecordError)
  | anchorBitClear
  | freeCount (stored counted : Nat)
  | reservedSlotEmpty (inode : Nat)
  | inodeDamaged (inode : Nat) (damage : Damage)
  | cursorNotLowest (cursor lowest : Nat)
  | cursorOnFullTable (cursor : Nat)
  | chainLength (inode size needed found : Nat)
  | blockMarkedFree (inode block : Nat)
  | blockShared (block first second : Nat)
  | anchorBlockLost (block : Nat)
  | blockUnreachable (block : Nat)
  | directoryDamaged (directory : Nat) (damage : Damage)
  | duplicateName (directory : Nat) (name : String)
  | linkToReserved (directory : Nat) (name : String) (inode : Nat)
  | linkToEmpty (directory : Nat) (name : String) (inode : Nat)
  | linkMisnamed (directory : Nat) (name : String) (inode : Nat) (actual : String)
  | linkCount (inode count : Nat)
deriving DecidableEq, Repr

def Finding.message : Finding → String
  | superblockUnreadable damage => s!"superblock: {damage.message}"
  | superblockField error => s!"superblock: {error.message}"
  | anchorBitClear => "bitmap: reserved anchor bit is clear"
  | freeCount stored counted =>
      s!"superblock: free count {stored} but bitmap has {counted} clear bits"
  | reservedSlotEmpty inode => s!"inode {inode}: reserved slot is empty"
  | inodeDamaged inode damage => s!"inode {inode}: {damage.message}"
  | cursorNotLowest cursor lowest =>
      s!"superblock: free-inode cursor {cursor}, lowest empty slot is {lowest}"
  | cursorOnFullTable cursor => s!"superblock: free-inode cursor {cursor} but table is full"
  | chainLength inode size needed found =>
      s!"inode {inode}: size {size} needs {needed} blocks, chain has {found}"
  | blockMarkedFree inode block => s!"inode {inode}: block {block} is marked free"
  | blockShared block first second => s!"block {block} shared by inodes {first} and {second}"
  | anchorBlockLost block => s!"anchor: block {block} is not owned by the anchor inode"
  | blockUnreachable block => s!"bitmap: block {block} allocated but unreachable"
  | directoryDamaged directory damage => s!"directory {directory}: {damage.message}"
  | duplicateName directory name =>
      s!"directory {directory}: duplicate name {Text.quote name}"
  | linkToReserved directory name inode =>
      s!"directory {directory}: entry {Text.quote name} links reserved inode {inode}"
  | linkToEmpty directory name inode =>
      s!"directory {directory}: entry {Text.quote name} points at empty inode {inode}"
  | linkMisnamed directory name inode actual =>
      s!"directory {directory}: entry {Text.quote name} names inode {inode} " ++
        s!"called {Text.quote actual}"
  | linkCount inode count => s!"inode {inode}: linked {count} times, expected once"

/-- The findings with the totals of the image. -/
structure CheckReport where
  findings : List Finding
  allocatedBlocks : Nat
  freeBlocks : Nat
  liveInodes : Nat
deriving DecidableEq, Repr

def CheckReport.isClean (report : CheckReport) : Bool :=
  report.findings.isEmpty

/-- The answer of a query, or the damage that stopped it. -/
def Query.damageOr {α : Type} (query : Query α) : Query (Except Damage α) :=
  tryCatchThe FsError (Except.ok <$> query) fun error =>
    match error with
    | .corrupt _ damage => pure (.error damage)
    | error => throw error

namespace Check

abbrev LiveInodes := List (Nat × Inode)

/-- The inode that each block was last found in. -/
abbrev Owners := List (Nat × Nat)

def find? (inodes : LiveInodes) (number : Nat) : Option Inode :=
  inodes.lookup number

/-! Inode slots -/

/-- The live inodes of `count` slots from `number` on. -/
def scanFrom (volume : Volume) : Nat → Nat → Query (LiveInodes × List Finding)
  | 0, _ => pure ([], [])
  | count + 1, number => do
      let slot ← (volume.getInode number).damageOr
      let (inodes, findings) ← scanFrom volume count (number + 1)
      match slot with
      | .error damage => return (inodes, .inodeDamaged number damage :: findings)
      | .ok inode =>
          if !inode.isEmpty then return ((number, inode) :: inodes, findings)
          else if InodeNumber.isReserved number then
            return (inodes, .reservedSlotEmpty number :: findings)
          else return (inodes, findings)

/-- The first of `count` numbers from `number` on that is no live inode. -/
def lowestVacant (inodes : LiveInodes) : Nat → Nat → Option Nat
  | 0, _ => none
  | count + 1, number =>
      if (find? inodes number).isSome then lowestVacant inodes count (number + 1)
      else some number

def checkCursor (geometry : Geometry) (inodes : LiveInodes) (cursor : Nat) : List Finding :=
  match lowestVacant inodes (geometry.inodeCount - InodeNumber.firstFree) InodeNumber.firstFree with
  | some lowest => if cursor = lowest then [] else [.cursorNotLowest cursor lowest]
  | none => if cursor = 0 then [] else [.cursorOnFullTable cursor]

/-! Chains -/

/-- Enters the blocks of an inode's chain into the owners. -/
def claimBlocks (geometry : Geometry) (bitmap : Bytes) (number : Nat) :
    List Nat → Owners → Owners × List Finding
  | [], owners => (owners, [])
  | block :: rest, owners =>
      let unmarked :=
        if Bitmap.get bitmap (block - geometry.dataStart) then []
        else [Finding.blockMarkedFree number block]
      let shared :=
        match owners.lookup block with
        | some other => [Finding.blockShared block other number]
        | none => []
      let (owners, findings) := claimBlocks geometry bitmap number rest ((block, number) :: owners)
      (owners, unmarked ++ shared ++ findings)

def checkChains (volume : Volume) (bitmap : Bytes) :
    LiveInodes → Owners → Query (Owners × List Finding)
  | [], owners => pure (owners, [])
  | (number, inode) :: rest, owners => do
      match ← (volume.chain inode.firstBlock.toNat).damageOr with
      | .error damage =>
          let (owners, findings) ← checkChains volume bitmap rest owners
          return (owners, .inodeDamaged number damage :: findings)
      | .ok chain =>
          let needed := volume.geometry.blocksFor inode.size.toNat
          let misfit :=
            if chain.length = needed then []
            else [Finding.chainLength number inode.size.toNat needed chain.length]
          let (owners, claims) := claimBlocks volume.geometry bitmap number chain owners
          let (owners, findings) ← checkChains volume bitmap rest owners
          return (owners, misfit ++ claims ++ findings)

def checkAnchor (geometry : Geometry) (owners : Owners) : List Finding :=
  if owners.lookup geometry.anchorBlock = some InodeNumber.anchor then []
  else [.anchorBlockLost geometry.anchorBlock]

/-- The blocks that are marked in the bitmap without being in a chain. -/
def unreachable (geometry : Geometry) (bitmap : Bytes) (owners : Owners) : List Finding :=
  ((List.range geometry.blocks).filter fun bit =>
    FirstFit.firstUsable ≤ bit && Bitmap.get bitmap bit &&
      (owners.lookup (geometry.blockOfBit bit)).isNone).map
    fun bit => .blockUnreachable (geometry.blockOfBit bit)

/-! Links -/

/-- What a counter does that has come to the end of its range. -/
inductive Overflow where
  | breaks
  | wraps
deriving DecidableEq, Repr

/-- How often each inode was linked, in counters of 32 bits. -/
abbrev LinkCounts := List (Nat × UInt32)

def linkCount (links : LinkCounts) (inode : Nat) : UInt32 :=
  (links.lookup inode).getD 0

def addLink (links : LinkCounts) (inode : Nat) : LinkCounts :=
  (inode, linkCount links inode + 1) :: links

/-- Counts one more link to an inode. -/
def countLink (overflow : Overflow) (links : LinkCounts) (inode : Nat) : Query LinkCounts :=
  if overflow = .breaks ∧ Limit.word32 ≤ (linkCount links inode).toNat + 1 then
    Query.halt (.crashed (.linkOverflow inode))
  else return addLink links inode

/-- What is wrong with where an entry of a directory leads. -/
def fault? (inodes : LiveInodes) (directory : Nat) (entry : DirEntry) : Option Finding :=
  let number := entry.inode.toNat
  if InodeNumber.isReserved number then some (.linkToReserved directory entry.name number)
  else
    match find? inodes number with
    | none => some (.linkToEmpty directory entry.name number)
    | some target =>
        if target.name ≠ entry.name then
          some (.linkMisnamed directory entry.name number target.name)
        else none

/-! Directories -/

/-- Judges the entries of a directory that come after those with the given names. The links that
are in order are counted. -/
def checkEntries (overflow : Overflow) (inodes : LiveInodes) (directory : Nat) :
    List DirEntry → List String → LinkCounts → Query (LinkCounts × List Finding)
  | [], _, links => pure (links, [])
  | entry :: rest, names, links => do
      let duplicate :=
        if names.contains entry.name then [Finding.duplicateName directory entry.name] else []
      let fault := fault? inodes directory entry
      let links ←
        if fault.isSome then pure links
        else countLink overflow links entry.inode.toNat
      let (links, findings) ←
        checkEntries overflow inodes directory rest (entry.name :: names) links
      return (links, duplicate ++ fault.toList ++ findings)

def checkDirectories (overflow : Overflow) (volume : Volume) (inodes : LiveInodes) :
    LiveInodes → LinkCounts → Query (LinkCounts × List Finding)
  | [], links => pure (links, [])
  | (number, inode) :: rest, links => do
      if !inode.isDirectory then
        checkDirectories overflow volume inodes rest links
      else
        match ← (volume.list number).damageOr with
        | .error damage =>
            let (links, findings) ← checkDirectories overflow volume inodes rest links
            return (links, .directoryDamaged number damage :: findings)
        | .ok entries =>
            let (links, judged) ← checkEntries overflow inodes number entries [] links
            let (links, findings) ← checkDirectories overflow volume inodes rest links
            return (links, judged ++ findings)

/-- Every inode that is not reserved must be linked once. -/
def checkLinks (inodes : LiveInodes) (links : LinkCounts) : List Finding :=
  (inodes.filter fun (number, _) =>
    !InodeNumber.isReserved number && linkCount links number != 1).map
    fun (number, _) => .linkCount number (linkCount links number).toNat

end Check

namespace Volume

variable (volume : Volume) (overflow : Check.Overflow)

/-- Checks an image whose superblock can be read. -/
def checkBehind (superblock : Superblock) : Query CheckReport := do
  let geometry := volume.geometry
  let fields :=
    match superblock.agree geometry with
    | .ok _ => []
    | .error error => [Finding.superblockField error]
  let bitmap ← volume.readBitmap
  let clear := Bitmap.countClear bitmap geometry.blocks
  let anchorBit := if Bitmap.get bitmap 0 then [] else [Finding.anchorBitClear]
  let free := superblock.freeBlocks.toNat
  let freeCount := if free = clear then [] else [Finding.freeCount free clear]
  let (inodes, slots) ← Check.scanFrom volume geometry.inodeCount 0
  let cursor := Check.checkCursor geometry inodes superblock.nextFreeInode.toNat
  let (owners, chains) ← Check.checkChains volume bitmap inodes []
  let anchor := Check.checkAnchor geometry owners
  let unreachable := Check.unreachable geometry bitmap owners
  let (links, directories) ← Check.checkDirectories overflow volume inodes inodes []
  return {
    findings := fields ++ anchorBit ++ freeCount ++ slots ++ cursor ++ chains ++ anchor ++
      unreachable ++ directories ++ Check.checkLinks inodes links
    allocatedBlocks := geometry.blocks - clear
    freeBlocks := free
    liveInodes := inodes.length }

/-- Checks the metadata. Without a superblock nothing else can be judged. -/
def checkUnlocked : Query CheckReport := do
  match ← volume.readSuperblock.damageOr with
  | .error damage =>
      return {
        findings := [.superblockUnreadable damage]
        allocatedBlocks := 0
        freeBlocks := 0
        liveInodes := 0 }
  | .ok superblock => volume.checkBehind overflow superblock

/-- Checks the image while nobody else may change its tree. -/
def check : Update CheckReport :=
  volume.withDirectoryLock .exclusive (volume.checkUnlocked overflow)

end Volume

end ImageFs
