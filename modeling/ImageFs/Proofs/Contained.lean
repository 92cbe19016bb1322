import ImageFs.Proofs.Bounds
import ImageFs.Proofs.Entries
import ImageFs.Proofs.PathGrammar

/-!
The operations of an image inside its file. Main statement: on a file that is as long as the image, no
operation fails because an access reaches behind the end, and the file keeps its length.
-/

namespace ImageFs

variable {α β : Type}

theorem Path.components_harmless (path : String) : Harmless (Path.components path) := by
  intro error fails
  rcases Path.components_error fails with rfl | rfl <;> exact id

theorem Path.splitLast_harmless (path : String) : Harmless (Path.splitLast path) := by
  intro error fails
  rcases Path.splitLast_error fails with rfl | rfl <;> exact id

theorem Listing.decode_harmless (listing : Listing) (slot : Nat) : Harmless (listing.decode slot) := by
  rw [Listing.decode]
  split
  · exact .mapError fun _ => id
  · exact .error id

namespace Volume

variable {volume : Volume} {overflow : Check.Overflow}

/-! Lookups -/

theorem findEmpty_inside (count number : Nat) :
    (volume.findEmpty count number).Inside volume.geometry := by
  induction count generalizing number with
  | zero => exact .pure 0
  | succ count induction =>
      exact (getInode_inside number).bind fun inode => .ite (.pure _) (induction _)

theorem liveFrom_inside (count number : Nat) :
    (volume.liveFrom count number).Inside volume.geometry := by
  induction count generalizing number with
  | zero => exact .pure []
  | succ count induction =>
      exact (getInode_inside number).bind fun _ => (induction _).bind fun _ => .pure _

theorem readListing_inside (directory : Inode) :
    (volume.readListing directory).Inside volume.geometry := by
  refine .ite (.throw id) ((chain_inside _).bind fun chain => ?_)
  refine .ite ((Query.Inside.halt id).bind fun _ => ?_) ?_ <;>
    exact (readChain_inside _ _ _).bind fun _ => .pure _

theorem lookup_inside (directory : Inode) (name : String) :
    (volume.lookup directory name).Inside volume.geometry := by
  refine (readListing_inside directory).bind fun listing => ?_
  cases listing.find? name with
  | none => exact .pure none
  | some slot => exact (Query.Inside.except (listing.decode_harmless slot)).bind fun _ => .pure _

theorem walk_inside (path : String) (names : List String) (inode : Inode) (number : Nat) :
    (volume.walk path names inode number).Inside volume.geometry := by
  induction names generalizing inode number with
  | nil => exact .pure _
  | cons name rest induction =>
      rw [walk]
      refine .ite (.throw id) ((lookup_inside inode name).bind fun found => ?_)
      cases found with
      | none => exact .throw id
      | some child =>
          refine .ite (.throw id) ((getInode_inside child).bind fun node => ?_)
          exact .ite (.throw id) (induction node child)

theorem walkFromRoot_inside (path : String) (names : List String) :
    (volume.walkFromRoot path names).Inside volume.geometry :=
  (getInode_inside _).bind fun root => walk_inside path names root _

theorem resolve_inside (path : String) : (volume.resolve path).Inside volume.geometry :=
  (Query.Inside.except (Path.components_harmless path)).bind fun names => walkFromRoot_inside path names

theorem list_inside (directory : Nat) : (volume.list directory).Inside volume.geometry := by
  refine (getInode_inside directory).bind fun inode => .ite (.throw id) ?_
  exact (readListing_inside inode).bind fun listing =>
    .mapM (fun slot => .except (listing.decode_harmless slot)) _

theorem statInode_inside (number : Nat) (inode : Inode) :
    (volume.statInode number inode).Inside volume.geometry := by
  rw [statInode]
  cases FileKind.ofInodeKind? inode.kind with
  | none => exact .throw id
  | some kind => exact (chain_inside _).bind fun _ => .pure _

theorem statPath_inside (path : String) : (volume.statPath path).Inside volume.geometry :=
  (resolve_inside path).bind fun node => statInode_inside node.2 node.1

theorem listPath_inside (path : String) : (volume.listPath path).Inside volume.geometry := by
  refine (resolve_inside path).bind fun node => .ite (.throw id) ?_
  refine (list_inside _).bind fun entries => .mapM (fun entry => ?_) entries
  refine (getInode_inside _).bind fun inode => ?_
  cases FileKind.ofInodeKind? inode.kind with
  | none => exact .throw id
  | some kind => exact .pure _

theorem usageGiven_inside (holders : Nat) : (volume.usageGiven holders).Inside volume.geometry := by
  refine (liveFrom_inside _ 0).bind fun live => (readCounter_inside .freeBlocks).bind fun free => ?_
  refine (readCounter_inside .nextFreeBlock).bind fun _ => ?_
  exact (readCounter_inside .nextFreeInode).bind fun _ => .pure _

theorem liveInode_inside (file : OpenFile) : (volume.liveInode file).Inside volume.geometry :=
  (getInode_inside _).bind fun _ => .ite (.throw id) (.pure _)

/-! The check -/

theorem scanFrom_inside (count number : Nat) :
    (Check.scanFrom volume count number).Inside volume.geometry := by
  induction count generalizing number with
  | zero => exact .pure _
  | succ count induction =>
      refine (getInode_inside number).damageOr.bind fun slot => (induction _).bind fun scanned => ?_
      cases slot with
      | error damage => exact .pure _
      | ok inode => exact .ite (.pure _) (.ite (.pure _) (.pure _))

theorem checkChains_inside (bitmap : Bytes) (inodes : Check.LiveInodes) (owners : Check.Owners) :
    (Check.checkChains volume bitmap inodes owners).Inside volume.geometry := by
  induction inodes generalizing owners with
  | nil => exact .pure _
  | cons node rest induction =>
      refine (chain_inside node.2.firstBlock.toNat).damageOr.bind fun found => ?_
      cases found with
      | error damage => exact (induction owners).bind fun _ => .pure _
      | ok chain => exact (induction _).bind fun _ => .pure _

theorem checkEntries_inside (inodes : Check.LiveInodes) (directory : Nat) (entries : List DirEntry)
    (names : List String) (links : Check.LinkCounts) :
    (Check.checkEntries overflow inodes directory entries names links).Inside volume.geometry := by
  induction entries generalizing names links with
  | nil => exact .pure _
  | cons entry rest induction =>
      have counts : (Check.countLink overflow links entry.inode.toNat).Inside volume.geometry :=
        .ite (.halt id) (.pure _)
      refine .ite (Query.Inside.bind (.pure links) fun links' => ?_) (counts.bind fun links' => ?_)
      · exact (induction _ links').bind fun _ => .pure _
      · exact (induction _ links').bind fun _ => .pure _

theorem checkDirectories_inside (inodes nodes : Check.LiveInodes) (links : Check.LinkCounts) :
    (Check.checkDirectories overflow volume inodes nodes links).Inside volume.geometry := by
  induction nodes generalizing links with
  | nil => exact .pure _
  | cons node rest induction =>
      refine .ite (induction links) ((list_inside node.1).damageOr.bind fun listed => ?_)
      cases listed with
      | error damage => exact (induction links).bind fun _ => .pure _
      | ok entries =>
          exact (checkEntries_inside _ _ _ _ links).bind fun judged =>
            (induction judged.1).bind fun _ => .pure _

theorem checkUnlocked_inside : (volume.checkUnlocked overflow).Inside volume.geometry := by
  refine readSuperblock_inside.damageOr.bind fun found => ?_
  cases found with
  | error damage => exact .pure _
  | ok superblock =>
      refine readBitmap_inside.bind fun bitmap => (scanFrom_inside _ 0).bind fun scanned => ?_
      refine (checkChains_inside bitmap _ []).bind fun chains => ?_
      exact (checkDirectories_inside _ _ []).bind fun _ => .pure _

/-! Changes of the tree -/

theorem insertInode_inside (inode : Inode) : (volume.insertInode inode).Inside volume.geometry := by
  refine (Update.Inside.ask (readCounter_inside .nextFreeInode)).bind fun cursor => ?_
  refine .ite (.throw id) (.ite (.throw id) ?_)
  refine (Update.Inside.ask (getInode_inside cursor)).bind fun slot => .ite (.throw id) ?_
  refine (putInode_inside cursor _).bind fun _ => ?_
  refine (Update.Inside.ask (findEmpty_inside _ _)).bind fun next => ?_
  exact (writeCounter_inside .nextFreeInode _).bind fun _ => .pure _

theorem emptyInode_inside (number : Nat) : (volume.emptyInode number).Inside volume.geometry := by
  refine .ite (.throw id) ((Update.Inside.ask (getInode_inside number)).bind fun inode => ?_)
  refine (putInode_inside number _).bind fun _ => ?_
  refine (Update.Inside.ask (readCounter_inside .nextFreeInode)).bind fun cursor => ?_
  exact .ite (writeCounter_inside .nextFreeInode _) (.pure _)

theorem appendEntry_inside (directory : Nat) (name : String) (target : Nat) :
    (volume.appendEntry directory name target).Inside volume.geometry := by
  refine (Update.Inside.ask (getInode_inside directory)).bind fun inode => ?_
  refine (Update.Inside.ask (readListing_inside inode)).bind fun listing => .ite (.throw id) ?_
  refine (Update.Inside.except (.mapError fun _ => id)).bind fun record => ?_
  have extends_ : Update.Inside volume.geometry (do
      let chain ← volume.growChain listing.chain (inode.size.toNat + recordLength)
      volume.writeChain chain inode.size.toNat record
      volume.putInode directory { inode with
        size := UInt64.ofNat (inode.size.toNat + recordLength)
        firstBlock := UInt64.ofNat (chain.headD 0) }) :=
    (growChain_inside _ _).bind fun chain => (writeChain_inside chain _ _).bind fun _ =>
      putInode_inside _ _
  cases listing.chain.getLast? with
  | none => exact extends_
  | some tail => exact withBlock_inside extends_

theorem enterInode_inside (parent : Nat) (name : String) (kind : InodeKind) :
    (volume.enterInode parent name kind).Inside volume.geometry := by
  refine (insertInode_inside _).bind fun number => Update.Inside.bind ?_ fun _ => .pure _
  refine (appendEntry_inside parent name number).tryCatch fun error harmless => ?_
  exact .attempt (emptyInode_inside number) fun _ _ => .throw harmless

theorem createLocked_inside (path : String) (kind : InodeKind) (parents : List String)
    (name : String) : (volume.createLocked path kind parents name).Inside volume.geometry := by
  have missing : ¬ (missingParent path kind).Overruns := by
    cases kind <;> exact id
  refine Update.Inside.bind ?_ fun parent => ?_
  · refine (Update.Inside.ask (walkFromRoot_inside path parents)).tryCatch fun error harmless => ?_
    cases error
    case noSuchFile => exact .throw missing
    all_goals exact .throw harmless
  · refine .ite (.throw missing) ((Update.Inside.ask (lookup_inside _ name)).bind fun found => ?_)
    exact .ite (.throw id) (enterInode_inside _ name kind)

theorem create_inside (path : String) (kind : FileKind) :
    (volume.create path kind.toInodeKind).Inside volume.geometry := by
  rw [volume.create_eq]
  exact (Update.Inside.except (Path.splitLast_harmless path)).bind fun split =>
    withDirectoryLock_inside (createLocked_inside _ _ _ _)

set_option maxRecDepth 4096 in
theorem removeEntry_inside (path : String) (parent : Inode) (parentNumber : Nat) (listing : Listing)
    (slot : Nat) :
    (volume.removeEntry path parent parentNumber listing slot).Inside volume.geometry := by
  refine (Update.Inside.except (listing.decode_harmless slot)).bind fun entry => .ite (.throw id) ?_
  refine (Update.Inside.ask (getInode_inside _)).bind fun target => .ite (.throw id) ?_
  have ends (last : Nat) : Update.Inside volume.geometry (do
      volume.writeChain listing.chain (last * recordLength) (.zeros recordLength)
      let shrunk ← volume.shrinkChain listing.chain (parent.size.toNat - recordLength)
      shrunk.1
      volume.putInode parentNumber { parent with
        size := UInt64.ofNat (parent.size.toNat - recordLength)
        firstBlock := UInt64.ofNat (shrunk.2.headD 0) }) := by
    refine (writeChain_inside _ _ _).bind fun _ => shrinkChain_inside _ _ fun outcome left harmless => ?_
    exact (Update.Inside.except harmless).bind fun _ => putInode_inside _ _
  refine .ite ((freeChain_inside _).bind fun _ => ?_) ?_ <;>
    refine (emptyInode_inside _).bind fun _ =>
      .ite ((writeChain_inside _ _ _).bind fun _ => ?_) ?_ <;>
    exact ends _

theorem remove_inside (path : String) : (volume.remove path).Inside volume.geometry := by
  rw [volume.remove_eq]
  refine (Update.Inside.except (Path.splitLast_harmless path)).bind fun split =>
    withDirectoryLock_inside ?_
  refine (Update.Inside.ask (walkFromRoot_inside path split.1)).bind fun parent => .ite (.throw id) ?_
  refine (Update.Inside.ask (readListing_inside _)).bind fun listing => ?_
  cases listing.find? split.2 with
  | none => exact .throw id
  | some slot => exact removeEntry_inside path _ _ listing slot

/-! Access to files -/

theorem readLocked_inside (file : OpenFile) (count : Nat) :
    (volume.readLocked file count).Inside volume.geometry := by
  refine (Update.Inside.ask (liveInode_inside file)).bind fun inode => .ite (.pure _) ?_
  refine (Update.Inside.ask (chain_inside _)).bind fun chain => ?_
  exact .ask (readChain_inside chain _ _)

theorem seekLocked_inside (file : OpenFile) (origin : Origin) (delta : Int) :
    (volume.seekLocked file origin delta).Inside volume.geometry :=
  (Update.Inside.ask (liveInode_inside file)).bind fun _ => .pure _

theorem writeLocked_inside (file : OpenFile) (bytes : Bytes) :
    (volume.writeLocked file bytes).Inside volume.geometry := by
  refine (Update.Inside.ask (liveInode_inside file)).bind fun inode => .ite (.throw id) ?_
  refine .ite (.pure _) ((Update.Inside.ask (chain_inside _)).bind fun chain => ?_)
  refine (growChain_inside chain _).bind fun grown => (writeChain_inside grown _ _).bind fun _ => ?_
  exact (putInode_inside _ _).bind fun _ => .pure _

theorem clearBehind_inside (chain : List Nat) (length : Nat) :
    (volume.clearBehind chain length).Inside volume.geometry := by
  have clears : Update.Inside volume.geometry (if length < volume.chainCapacity chain then
      volume.writeChain chain length (.zeros (volume.chainCapacity chain - length))
    else pure ()) := .ite (writeChain_inside _ _ _) (.pure _)
  exact .ite ((Update.Inside.halt id).bind fun _ => clears) clears

theorem truncateLocked_inside (file : OpenFile) (length : Nat) :
    (volume.truncateLocked file length).Inside volume.geometry := by
  refine (Update.Inside.ask (liveInode_inside file)).bind fun inode => .ite (.pure _) ?_
  refine (Update.Inside.ask (chain_inside _)).bind fun chain => ?_
  refine Update.Inside.bind (.ite ?_ (growChain_inside chain length)) fun _ => putInode_inside _ _
  refine shrinkChain_inside chain length fun outcome left harmless => ?_
  exact (Update.Inside.except harmless).bind fun _ => (clearBehind_inside _ _).bind fun _ => .pure _

theorem withOpenFile_inside {file : OpenFile} {kind : LockKind} {body : Update α}
    (inside : body.Inside volume.geometry) :
    (volume.withOpenFile file kind body).Inside volume.geometry :=
  withDirectoryLock_inside (withInode_inside inside)

end Volume

/-! Actions -/

/-- The action accesses a file that is long enough for the image only inside, and keeps its length. -/
def FileAction.Inside (geometry : Geometry) (action : FileAction α) : Prop :=
  ∀ files backing, geometry.imageLength ≤ backing.content.size →
    (action files backing).2.2.content.size = backing.content.size ∧
    ∀ halt, (action files backing).1 = .error halt → ¬ halt.Overruns

namespace FileAction.Inside

variable {geometry : Geometry}

theorem pure (value : α) : (Pure.pure value : FileAction α).Inside geometry :=
  fun _ _ _ => ⟨rfl, nofun⟩

theorem throw {error : FsError} (harmless : ¬ error.Overruns) :
    (MonadExcept.throw error : FileAction α).Inside geometry := by
  refine fun files backing long => ⟨rfl, fun halt ends => ?_⟩
  cases ends
  exact harmless

theorem lift {update : Update α} (inside : update.Inside geometry) :
    (liftM update : FileAction α).Inside geometry :=
  fun _ backing long => inside backing long

theorem bind {action : FileAction α} {next : α → FileAction β} (first : action.Inside geometry)
    (second : ∀ value, (next value).Inside geometry) : (action >>= next).Inside geometry := by
  intro files backing long
  obtain ⟨size, harmless⟩ := first files backing long
  rw [FileAction.bind_apply]
  rcases answered : action files backing with ⟨halt | value, files', after⟩
  · rw [answered] at size harmless
    refine ⟨size, fun halt' ends => ?_⟩
    cases ends
    exact harmless halt rfl
  · rw [answered] at size
    obtain ⟨size', harmless'⟩ := second value files' after (size ▸ long)
    exact ⟨size'.trans size, harmless'⟩

theorem map (wrap : α → β) {action : FileAction α} (inside : action.Inside geometry) :
    (wrap <$> action).Inside geometry := by
  rw [← bind_pure_comp]
  exact inside.bind fun value => pure (wrap value)

theorem ite {condition : Prop} [Decidable condition] {yes no : FileAction α}
    (holds : yes.Inside geometry) (fails : no.Inside geometry) :
    (if condition then yes else no).Inside geometry := by
  split
  · exact holds
  · exact fails

theorem file (handle : Nat) : (FileAction.file handle).Inside geometry := by
  refine fun files backing long => ⟨rfl, fun halt ends => ?_⟩
  rw [FileAction.file, OpenFiles.get] at ends
  split at ends <;> cases ends
  exact id

theorem insert (file : OpenFile) : (FileAction.insert file).Inside geometry := by
  refine fun files backing long => ⟨rfl, fun halt ends => ?_⟩
  rw [FileAction.insert, OpenFiles.insert] at ends
  dsimp only at ends
  split at ends <;> cases ends
  exact id

theorem setOffset (handle offset : Nat) : (FileAction.setOffset handle offset).Inside geometry := by
  intro files backing long
  rw [FileAction.setOffset, OpenFiles.setOffset]
  cases files.get? handle with
  | none => exact ⟨rfl, fun halt ends => by cases ends; exact id⟩
  | some file => exact ⟨rfl, nofun⟩

theorem remove (handle : Nat) : (FileAction.remove handle).Inside geometry := by
  intro files backing long
  rw [FileAction.remove, OpenFiles.remove]
  cases files.get? handle with
  | none => exact ⟨rfl, fun halt ends => by cases ends; exact id⟩
  | some file => exact ⟨rfl, nofun⟩

end FileAction.Inside

/-! Operations -/

/-- No operation of an image accesses its file behind the end. -/
theorem Image.Operation.inside (volume : Volume) (operation : Image.Operation) :
    (operation.action volume).Inside volume.geometry := by
  cases operation with
  | create path kind =>
      exact (FileAction.Inside.lift (Volume.create_inside path kind)).bind fun _ => .pure _
  | remove path => exact (FileAction.Inside.lift (Volume.remove_inside path)).bind fun _ => .pure _
  | openFile path mode =>
      refine .map _ ((FileAction.Inside.lift (Volume.withDirectoryLock_inside
        (.ask (Volume.resolve_inside path)))).bind fun found => ?_)
      exact .ite (.throw id) (.insert _)
  | closeFile handle => exact (FileAction.Inside.remove handle).bind fun _ => .pure _
  | read handle count =>
      refine .map _ ((FileAction.Inside.file handle).bind fun file => ?_)
      refine (FileAction.Inside.lift (Volume.withOpenFile_inside
        (Volume.readLocked_inside file count))).bind fun bytes => ?_
      exact (FileAction.Inside.setOffset _ _).bind fun _ => .pure _
  | write handle bytes =>
      refine FileAction.Inside.bind ?_ fun _ => .pure _
      refine (FileAction.Inside.file handle).bind fun file => .ite (.throw id) ?_
      exact (FileAction.Inside.lift (Volume.withOpenFile_inside
        (Volume.writeLocked_inside file bytes))).bind fun stop => .setOffset _ _
  | seek handle origin delta =>
      refine .map _ ((FileAction.Inside.file handle).bind fun file => ?_)
      refine (FileAction.Inside.lift (Volume.withOpenFile_inside
        (Volume.seekLocked_inside file origin delta))).bind fun position => ?_
      exact (FileAction.Inside.setOffset _ _).bind fun _ => .pure _
  | truncate handle length =>
      refine FileAction.Inside.bind ?_ fun _ => .pure _
      refine (FileAction.Inside.file handle).bind fun file => .ite (.throw id) ?_
      exact .lift (Volume.withOpenFile_inside (Volume.truncateLocked_inside file length))
  | stat path =>
      exact (FileAction.Inside.lift (Volume.withDirectoryLock_inside
        (.ask (Volume.statPath_inside path)))).bind fun _ => .pure _
  | readDirectory path =>
      exact (FileAction.Inside.lift (Volume.withDirectoryLock_inside
        (.ask (Volume.listPath_inside path)))).bind fun _ => .pure _
  | usage =>
      refine (FileAction.Inside.lift ?_).bind fun _ => .pure _
      rw [Volume.usage, volume.directoryLock_of_volume]
      exact DirectoryLock.holders_inside.bind fun holders =>
        Volume.withDirectoryLock_inside (.ask (Volume.usageGiven_inside holders))
  | check =>
      exact (FileAction.Inside.lift (Volume.withDirectoryLock_inside
        (.ask Volume.checkUnlocked_inside))).bind fun _ => .pure _

theorem Image.perform_inside (image : Image) (operation : Image.Operation) {backing : Backing}
    (long : image.volume.geometry.imageLength ≤ backing.content.size) :
    (image.perform operation backing).2.2.content.size = backing.content.size ∧
    ∀ halt, (image.perform operation backing).1 = .error halt → ¬ halt.Overruns := by
  have inside := operation.inside image.volume image.files backing long
  rw [perform]
  generalize operation.action image.volume image.files backing = ended at inside
  exact inside

end ImageFs
