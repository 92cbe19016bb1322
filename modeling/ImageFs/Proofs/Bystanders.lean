import ImageFs.Image
import ImageFs.Proofs.Beside
import ImageFs.Proofs.Entries
import ImageFs.Proofs.Verdict

/-!
The parts of an image's operations beside the locks of others. Main statements: no query of an image
looks at the locks, and what runs under the directory lock does beside the locks of others what it does
without them, or it waits for one of them.
-/

namespace ImageFs

namespace Volume

variable {volume : Volume} {overflow : Check.Overflow}

/-! Queries -/

theorem getInode_blind (number : Nat) : (volume.getInode number).Blind :=
  ((Query.Blind.except _).bind fun _ => Device.read_blind _ _).bind fun _ => .except _

theorem findEmpty_blind (count number : Nat) : (volume.findEmpty count number).Blind := by
  induction count generalizing number with
  | zero => exact .pure 0
  | succ count induction =>
      refine (getInode_blind number).bind fun inode => ?_
      exact .ite (.pure _) (induction _)

theorem liveFrom_blind (count number : Nat) : (volume.liveFrom count number).Blind := by
  induction count generalizing number with
  | zero => exact .pure []
  | succ count induction =>
      exact (getInode_blind number).bind fun _ => (induction _).bind fun _ => .pure _

theorem walkChain_blind (first budget current : Nat) :
    (volume.walkChain first budget current).Blind := by
  induction budget generalizing current with
  | zero =>
      rw [walkChain.eq_def]
      exact .ite (.pure _) ((Query.Blind.except _).bind fun _ => .throw _)
  | succ budget induction =>
      rw [walkChain.eq_def]
      refine .ite (.pure _) ((Query.Blind.except _).bind fun _ => ?_)
      refine ((Query.Blind.except _).bind fun _ => Device.readWord_blind _).bind fun next => ?_
      exact (induction next).bind fun _ => .pure _

theorem chain_blind (first : Nat) : (volume.chain first).Blind :=
  walkChain_blind first _ first

theorem readPieces_blind (pieces : List Piece) : (volume.readPieces pieces).Blind := by
  induction pieces with
  | nil => exact .pure []
  | cons piece rest induction =>
      refine (Query.Blind.except _).bind fun start => (Device.read_blind _ _).bind fun bytes => ?_
      exact induction.bind fun _ => .pure _

theorem readChain_blind (chain : List Nat) (offset length : Nat) :
    (volume.readChain chain offset length).Blind :=
  (Query.Blind.except _).bind fun pieces => readPieces_blind pieces

theorem readListing_blind (directory : Inode) : (volume.readListing directory).Blind := by
  refine .ite (.throw _) ((chain_blind _).bind fun chain => ?_)
  refine .ite ((Query.Blind.halt _).bind fun _ => ?_) ?_ <;>
    exact (readChain_blind _ _ _).bind fun _ => .pure _

theorem lookup_blind (directory : Inode) (name : String) :
    (volume.lookup directory name).Blind := by
  refine (readListing_blind directory).bind fun listing => ?_
  cases listing.find? name with
  | none => exact .pure none
  | some slot => exact (Query.Blind.except _).bind fun _ => .pure _

theorem walk_blind (path : String) (names : List String) (inode : Inode) (number : Nat) :
    (volume.walk path names inode number).Blind := by
  induction names generalizing inode number with
  | nil => exact .pure _
  | cons name rest induction =>
      rw [walk]
      refine .ite (.throw _) ((lookup_blind inode name).bind fun found => ?_)
      cases found with
      | none => exact .throw _
      | some child =>
          refine .ite (.throw _) ((getInode_blind child).bind fun node => ?_)
          exact .ite (.throw _) (induction node child)

theorem walkFromRoot_blind (path : String) (names : List String) :
    (volume.walkFromRoot path names).Blind :=
  (getInode_blind _).bind fun root => walk_blind path names root _

theorem resolve_blind (path : String) : (volume.resolve path).Blind :=
  (Query.Blind.except _).bind fun names => walkFromRoot_blind path names

theorem list_blind (directory : Nat) : (volume.list directory).Blind := by
  refine (getInode_blind directory).bind fun inode => .ite (.throw _) ?_
  exact (readListing_blind inode).bind fun listing => .mapM (fun _ => .except _) _

theorem statInode_blind (number : Nat) (inode : Inode) :
    (volume.statInode number inode).Blind := by
  rw [statInode]
  cases FileKind.ofInodeKind? inode.kind with
  | none => exact .throw _
  | some kind => exact (chain_blind _).bind fun _ => .pure _

theorem statPath_blind (path : String) : (volume.statPath path).Blind :=
  (resolve_blind path).bind fun node => statInode_blind node.2 node.1

theorem listedEntry_blind (entry : DirEntry) : (volume.listedEntry entry).Blind := by
  refine (getInode_blind _).bind fun inode => ?_
  cases FileKind.ofInodeKind? inode.kind with
  | none => exact .throw _
  | some kind => exact .pure _

theorem listPath_blind (path : String) : (volume.listPath path).Blind := by
  refine (resolve_blind path).bind fun node => .ite (.throw _) ?_
  exact (list_blind _).bind fun entries => .mapM listedEntry_blind entries

theorem usageGiven_blind (holders : Nat) : (volume.usageGiven holders).Blind := by
  refine (liveFrom_blind _ 0).bind fun live => (Device.readWord_blind _).bind fun free => ?_
  exact (Device.readWord_blind _).bind fun _ => (Device.readWord_blind _).bind fun _ => .pure _

theorem liveInode_blind (file : OpenFile) : (volume.liveInode file).Blind :=
  (getInode_blind _).bind fun _ => .ite (.throw _) (.pure _)

/-! The check -/

theorem scanFrom_blind (count number : Nat) : (Check.scanFrom volume count number).Blind := by
  induction count generalizing number with
  | zero => exact .pure _
  | succ count induction =>
      refine (getInode_blind number).damageOr.bind fun slot => (induction _).bind fun scanned => ?_
      cases slot with
      | error damage => exact .pure _
      | ok inode => exact .ite (.pure _) (.ite (.pure _) (.pure _))

theorem checkChains_blind (bitmap : Bytes) (inodes : Check.LiveInodes) (owners : Check.Owners) :
    (Check.checkChains volume bitmap inodes owners).Blind := by
  induction inodes generalizing owners with
  | nil => exact .pure _
  | cons node rest induction =>
      refine (chain_blind node.2.firstBlock.toNat).damageOr.bind fun found => ?_
      cases found with
      | error damage => exact (induction owners).bind fun _ => .pure _
      | ok chain => exact (induction _).bind fun _ => .pure _

theorem checkEntries_blind (inodes : Check.LiveInodes) (directory : Nat) (entries : List DirEntry)
    (names : List String) (links : Check.LinkCounts) :
    (Check.checkEntries overflow inodes directory entries names links).Blind := by
  induction entries generalizing names links with
  | nil => exact .pure _
  | cons entry rest induction =>
      have counts : (Check.countLink overflow links entry.inode.toNat).Blind :=
        .ite (.halt _) (.pure _)
      refine .ite (Query.Blind.bind (.pure links) fun links' => ?_) (counts.bind fun links' => ?_)
      · exact (induction _ links').bind fun _ => .pure _
      · exact (induction _ links').bind fun _ => .pure _

theorem checkDirectories_blind (inodes nodes : Check.LiveInodes) (links : Check.LinkCounts) :
    (Check.checkDirectories overflow volume inodes nodes links).Blind := by
  induction nodes generalizing links with
  | nil => exact .pure _
  | cons node rest induction =>
      refine .ite (induction links) ((list_blind node.1).damageOr.bind fun listed => ?_)
      cases listed with
      | error damage => exact (induction links).bind fun _ => .pure _
      | ok entries =>
          exact (checkEntries_blind _ _ _ _ links).bind fun judged =>
            (induction judged.1).bind fun _ => .pure _

theorem checkUnlocked_blind : (volume.checkUnlocked overflow).Blind := by
  have superblock : volume.readSuperblock.Blind :=
    (Device.read_blind _ _).bind fun _ => .except _
  refine superblock.damageOr.bind fun found => ?_
  cases found with
  | error damage => exact .pure _
  | ok superblock =>
      refine (Device.read_blind _ _).bind fun bitmap => (scanFrom_blind _ 0).bind fun scanned => ?_
      refine (checkChains_blind bitmap _ []).bind fun chains => ?_
      exact (checkDirectories_blind _ _ []).bind fun _ => .pure _

/-! Updates that take no locks -/

variable {others : LockTable} {mayWait : Prop}

theorem putInode_heeds (number : Nat) (inode : Inode) :
    (volume.putInode number inode).Heeds others mayWait := by
  refine .ite (.throw _) ?_
  refine (Update.Heeds.except _).bind fun record => (Update.Heeds.except _).bind fun offset => ?_
  exact Device.write_heeds _ _

theorem writeBlock_heeds (block : Nat) (payload : Bytes) (next : Nat) :
    (volume.writeBlock block payload next).Heeds others mayWait := by
  refine (Update.Heeds.except _).bind fun _ => .ite (.throw _) ?_
  exact (Update.Heeds.except _).bind fun _ => Device.write_heeds _ _

theorem linkBlock_heeds (block next : Nat) : (volume.linkBlock block next).Heeds others mayWait :=
  (Update.Heeds.except _).bind fun _ => Device.writeWord_heeds _ _

theorem linkFresh_heeds (blocks : List Nat) : (volume.linkFresh blocks).Heeds others mayWait := by
  induction blocks with
  | nil => exact .pure ()
  | cons block rest induction => exact (writeBlock_heeds block [] _).bind fun _ => induction

theorem unlinkAll_heeds (blocks : List Nat) : (volume.unlinkAll blocks).Heeds others mayWait := by
  induction blocks with
  | nil => exact .pure ()
  | cons block rest induction => exact (linkBlock_heeds block 0).bind fun _ => induction

theorem writeTouched_heeds (bits : List Nat) (bitmap : Bytes) :
    (volume.writeTouched bits bitmap).Heeds others mayWait := by
  rw [writeTouched]
  split
  · exact .ite (.throw _) (Device.write_heeds _ _)
  · exact .pure ()

theorem writePieces_heeds (pieces : List Piece) (bytes : Bytes) :
    (volume.writePieces pieces bytes).Heeds others mayWait := by
  induction pieces generalizing bytes with
  | nil => exact .pure ()
  | cons piece rest induction =>
      refine (Update.Heeds.except _).bind fun start => ?_
      exact (Device.write_heeds _ _).bind fun _ => induction _

theorem writeChain_heeds (chain : List Nat) (offset : Nat) (bytes : Bytes) :
    (volume.writeChain chain offset bytes).Heeds others mayWait :=
  (Update.Heeds.except _).bind fun pieces => writePieces_heeds pieces bytes

theorem insertInode_heeds (inode : Inode) : (volume.insertInode inode).Heeds others mayWait := by
  refine (Update.Heeds.ask (Device.readWord_blind _)).bind fun cursor => ?_
  refine .ite (.throw _) (.ite (.throw _) ?_)
  refine (Update.Heeds.ask (getInode_blind cursor)).bind fun slot => .ite (.throw _) ?_
  refine (putInode_heeds cursor _).bind fun _ => ?_
  refine (Update.Heeds.ask (findEmpty_blind _ _)).bind fun next => ?_
  exact (Device.writeWord_heeds _ _).bind fun _ => .pure _

theorem emptyInode_heeds (number : Nat) : (volume.emptyInode number).Heeds others mayWait := by
  refine .ite (.throw _) ((Update.Heeds.ask (getInode_blind number)).bind fun inode => ?_)
  refine (putInode_heeds number _).bind fun _ => ?_
  refine (Update.Heeds.ask (Device.readWord_blind _)).bind fun cursor => ?_
  exact .ite (Device.writeWord_heeds _ _) (.pure _)

theorem clearBehind_heeds (chain : List Nat) (length : Nat) :
    (volume.clearBehind chain length).Heeds others mayWait := by
  have clears : Update.Heeds others mayWait (if length < volume.chainCapacity chain then
      volume.writeChain chain length (.zeros (volume.chainCapacity chain - length))
    else pure ()) := .ite (writeChain_heeds _ _ _) (.pure _)
  exact .ite ((Update.Heeds.halt _).bind fun _ => clears) clears

theorem readLocked_heeds (file : OpenFile) (count : Nat) :
    (volume.readLocked file count).Heeds others mayWait := by
  refine (Update.Heeds.ask (liveInode_blind file)).bind fun inode => .ite (.pure _) ?_
  refine (Update.Heeds.ask (chain_blind _)).bind fun chain => ?_
  exact .ask (readChain_blind chain _ _)

theorem seekLocked_heeds (file : OpenFile) (origin : Origin) (delta : Int) :
    (volume.seekLocked file origin delta).Heeds others mayWait :=
  (Update.Heeds.ask (liveInode_blind file)).bind fun _ => .pure _

theorem allocateLocked_heeds (count : Nat) :
    (volume.allocateLocked count).Heeds others mayWait := by
  refine (Update.Heeds.ask (Device.readWord_blind _)).bind fun free => .ite (.throw _) ?_
  refine (Update.Heeds.ask (Device.readWord_blind _)).bind fun cursor => ?_
  refine (Update.Heeds.ask (Device.read_blind _ _)).bind fun bitmap => ?_
  cases FirstFit.choose bitmap volume.geometry.blocks cursor count with
  | none => exact .throw _
  | some choice =>
      refine (writeTouched_heeds _ _).bind fun _ => (Device.writeWord_heeds _ _).bind fun _ => ?_
      refine (Device.writeWord_heeds _ _).bind fun _ => ?_
      exact (linkFresh_heeds _).bind fun _ => .pure _

theorem freeLocked_heeds (blocks : List Nat) : (volume.freeLocked blocks).Heeds others mayWait := by
  refine (Update.Heeds.ask (Device.read_blind _ _)).bind fun bitmap => ?_
  refine (Update.Heeds.except _).bind fun cleared => ?_
  refine (Update.Heeds.ask (Device.readWord_blind _)).bind fun count => .ite (.throw _) ?_
  refine (writeTouched_heeds _ _).bind fun _ => (Device.writeWord_heeds _ _).bind fun _ => ?_
  exact unlinkAll_heeds blocks

/-! Updates that lock the cursor, a block or a record -/

section Locks

variable {α : Type} (foreign : others.Foreign volume.device.owner)

include foreign

theorem withCursor_heeds {body : Update α} (heeds : body.Heeds others True) :
    (volume.withCursor body).Heeds others True :=
  Device.withLock_heeds foreign heeds

theorem withInode_heeds (number : Nat) (kind : LockKind) {body : Update α}
    (heeds : body.Heeds others True) : (volume.withInode number kind body).Heeds others True :=
  (Update.Heeds.except _).bind fun _ => Device.withLock_heeds foreign heeds

theorem withBlock_heeds (block : Nat) (kind : LockKind) {body : Update α}
    (heeds : body.Heeds others True) : (volume.withBlock block kind body).Heeds others True :=
  (Update.Heeds.except _).bind fun _ => Device.withLock_heeds foreign heeds

end Locks

variable (foreign : others.Foreign volume.device.owner)

include foreign

theorem allocate_heeds (count : Nat) : (volume.allocate count).Heeds others True :=
  .ite (.pure _) (withCursor_heeds foreign (allocateLocked_heeds count))

theorem free_heeds (blocks : List Nat) : (volume.free blocks).Heeds others True :=
  .ite (.pure _)
    ((Update.Heeds.except _).bind fun _ => withCursor_heeds foreign (freeLocked_heeds blocks))

theorem freeChain_heeds (first : Nat) : (volume.freeChain first).Heeds others True := by
  refine (Update.Heeds.ask (chain_blind first)).bind fun chain => ?_
  exact (free_heeds foreign chain).bind fun _ => .pure _

theorem growChain_heeds (chain : List Nat) (length : Nat) :
    (volume.growChain chain length).Heeds others True := by
  refine .ite (.pure _) ((allocate_heeds foreign _).bind fun fresh => ?_)
  cases chain.getLast? with
  | none => exact .pure _
  | some tail => exact (linkBlock_heeds tail _).bind fun _ => .pure _

theorem shrinkChain_heeds (chain : List Nat) (length : Nat) :
    (volume.shrinkChain chain length).Heeds others True := by
  refine .ite (.pure _) ((Update.Heeds.attempt ?_).bind fun outcome => .pure _)
  cases (chain.take (volume.geometry.blocksFor length)).getLast? with
  | none => exact free_heeds foreign _
  | some tail => exact (linkBlock_heeds tail 0).bind fun _ => free_heeds foreign _

theorem appendEntry_heeds (directory : Nat) (name : String) (target : Nat) :
    (volume.appendEntry directory name target).Heeds others True := by
  refine (Update.Heeds.ask (getInode_blind directory)).bind fun inode => ?_
  refine (Update.Heeds.ask (readListing_blind inode)).bind fun listing => .ite (.throw _) ?_
  refine (Update.Heeds.except _).bind fun record => ?_
  have extends_ : Update.Heeds others True (do
      let chain ← volume.growChain listing.chain (inode.size.toNat + recordLength)
      volume.writeChain chain inode.size.toNat record
      volume.putInode directory { inode with
        size := UInt64.ofNat (inode.size.toNat + recordLength)
        firstBlock := UInt64.ofNat (chain.headD 0) }) :=
    (growChain_heeds foreign _ _).bind fun chain => (writeChain_heeds chain _ _).bind fun _ =>
      putInode_heeds _ _
  cases listing.chain.getLast? with
  | none => exact extends_
  | some tail => exact withBlock_heeds foreign tail .exclusive extends_

theorem enterInode_heeds (parent : Nat) (name : String) (kind : InodeKind) :
    (volume.enterInode parent name kind).Heeds others True := by
  refine (insertInode_heeds _).bind fun number => Update.Heeds.bind ?_ fun _ => .pure _
  refine (appendEntry_heeds foreign parent name number).tryCatch fun error => ?_
  exact ((emptyInode_heeds number).attempt.bind fun _ => .throw _)

theorem createLocked_heeds (path : String) (kind : InodeKind) (parents : List String) (name : String) :
    (volume.createLocked path kind parents name).Heeds others True := by
  refine Update.Heeds.bind ?_ fun parent => ?_
  · refine (Update.Heeds.ask (walkFromRoot_blind path parents)).tryCatch fun error => ?_
    cases error <;> exact .throw _
  · refine .ite (.throw _) ((Update.Heeds.ask (lookup_blind _ name)).bind fun found => ?_)
    exact .ite (.throw _) (enterInode_heeds foreign _ name kind)

set_option maxRecDepth 4096 in
theorem removeEntry_heeds (path : String) (parent : Inode) (parentNumber : Nat) (listing : Listing)
    (slot : Nat) : (volume.removeEntry path parent parentNumber listing slot).Heeds others True := by
  refine (Update.Heeds.except _).bind fun entry => .ite (.throw _) ?_
  refine (Update.Heeds.ask (getInode_blind _)).bind fun target => .ite (.throw _) ?_
  have ends (last : Nat) : Update.Heeds others True (do
      volume.writeChain listing.chain (last * recordLength) (.zeros recordLength)
      let shrunk ← volume.shrinkChain listing.chain (parent.size.toNat - recordLength)
      shrunk.1
      volume.putInode parentNumber { parent with
        size := UInt64.ofNat (parent.size.toNat - recordLength)
        firstBlock := UInt64.ofNat (shrunk.2.headD 0) }) := by
    refine (writeChain_heeds _ _ _).bind fun _ => (shrinkChain_heeds foreign _ _).bind fun shrunk => ?_
    exact (Update.Heeds.except _).bind fun _ => putInode_heeds _ _
  -- the slot is emptied in the same way whether or not there were blocks to free
  refine .ite ((freeChain_heeds foreign _).bind fun _ => ?_) ?_ <;>
    refine (emptyInode_heeds _).bind fun _ =>
      .ite ((writeChain_heeds _ _ _).bind fun _ => ?_) ?_ <;>
    exact ends _

theorem removeLocked_heeds (path : String) (parents : List String) (name : String) :
    (volume.removeLocked path parents name).Heeds others True := by
  refine (Update.Heeds.ask (walkFromRoot_blind path parents)).bind fun parent => .ite (.throw _) ?_
  refine (Update.Heeds.ask (readListing_blind _)).bind fun listing => ?_
  cases listing.find? name with
  | none => exact .throw _
  | some slot => exact removeEntry_heeds foreign path _ _ listing slot

theorem writeLocked_heeds (file : OpenFile) (bytes : Bytes) :
    (volume.writeLocked file bytes).Heeds others True := by
  refine (Update.Heeds.ask (liveInode_blind file)).bind fun inode => .ite (.throw _) ?_
  refine .ite (.pure _) ((Update.Heeds.ask (chain_blind _)).bind fun chain => ?_)
  refine (growChain_heeds foreign chain _).bind fun grown => (writeChain_heeds grown _ _).bind fun _ => ?_
  exact (putInode_heeds _ _).bind fun _ => .pure _

theorem truncateLocked_heeds (file : OpenFile) (length : Nat) :
    (volume.truncateLocked file length).Heeds others True := by
  refine (Update.Heeds.ask (liveInode_blind file)).bind fun inode => .ite (.pure _) ?_
  refine (Update.Heeds.ask (chain_blind _)).bind fun chain => ?_
  refine Update.Heeds.bind (.ite ?_ (growChain_heeds foreign chain length)) fun _ => putInode_heeds _ _
  refine (shrinkChain_heeds foreign chain length).bind fun shrunk => ?_
  exact (Update.Heeds.except _).bind fun _ => (clearBehind_heeds _ _).bind fun _ => .pure _

end Volume

end ImageFs
