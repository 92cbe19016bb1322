import ImageFs.Image
import ImageFs.Proofs.Findings
import ImageFs.Proofs.Represents
import ImageFs.Proofs.SturdyTree

/-!
Questions about the tree, the check and open files on an image with arbitrary bytes. Main statements:
they endure but for directories that are too large, and for one more cause: a file that declares more
bytes than its blocks hold, when it is cut to a length in between.
-/

namespace ImageFs

variable {α β : Type}

namespace Volume

variable {volume : Volume} {excused : Crash → Prop} {accepted : Nat → Prop}

/-! Asking under the directory lock -/

theorem tame_uncounted : Uncounted volume.geometry (volume.tame accepted) :=
  Content.Tame.ofRecords.uncounted

theorem ask_endures {query : Query α} (kind : LockKind)
    (bears : Bears volume excused (volume.tame accepted) query fun _ _ => True) :
    Endures volume excused (volume.tame accepted)
      (volume.withDirectoryLock kind (liftM query : Update α)) (fun _ => volume.tame accepted)
      (volume.tame accepted) := by
  refine .withDirectoryLock kind ?_ (fun _ => id) tame_uncounted (fun _ => tame_uncounted)
    tame_uncounted
  exact .ask bears fun _ => id

theorem statInode_bears (before : Content → Prop) (number : Nat) (inode : Inode) :
    Bears volume excused before (volume.statInode number inode) fun _ _ => True := by
  rw [statInode]
  split
  · exact .throw _ _
  · exact (chain_bears _).plain.andThen fun chain => .pure fun _ _ => trivial

theorem listedEntry_bears (before : Content → Prop) (entry : DirEntry) :
    Bears volume excused before (volume.listedEntry entry) fun _ _ => True := by
  refine (getInode_bears before _).plain.andThen fun inode => ?_
  split
  · exact .throw _ _
  · exact .pure fun _ _ => trivial

theorem usageGiven_bears (before : Content → Prop) (holders : Nat) :
    Bears volume excused before (volume.usageGiven holders) fun _ _ => True := by
  refine (liveFrom_bears before _ 0).andThen fun live => ?_
  refine (Device.readWord_bears before _).plain.andThen fun free => ?_
  refine (Device.readWord_bears before _).plain.andThen fun nextBlock => ?_
  exact (Device.readWord_bears before _).plain.andThen fun nextInode => .pure fun _ _ => trivial

theorem usage_endures :
    Endures volume excused (volume.tame accepted) volume.usage (fun _ => volume.tame accepted)
      (volume.tame accepted) := by
  rw [usage, volume.directoryLock_of_volume]
  refine .liftOk rfl ?_
  refine .through (volume.tame accepted) ?_ fun holders => ask_endures .shared
    (usageGiven_bears _ holders)
  refine .withLock _ _ ?_ fun _ => id
  exact .ask DirectoryLock.readHolders_bears fun _ => id

/-! The check -/

theorem scanFrom_bears (before : Content → Prop) (count number : Nat) :
    Bears volume excused before (Check.scanFrom volume count number) fun _ _ => True := by
  induction count generalizing number with
  | zero => exact .pure fun _ _ => trivial
  | succ count induction =>
      refine (getInode_bears before number).damageOr.plain.andThen fun slot => ?_
      refine (induction (number + 1)).andThen fun scanned => ?_
      cases slot with
      | error damage => exact .pure fun _ _ => trivial
      | ok inode =>
          refine .ite (fun _ => .pure fun _ _ => trivial) fun _ => ?_
          exact .ite (fun _ => .pure fun _ _ => trivial) fun _ => .pure fun _ _ => trivial

theorem scanFrom_finds (before : Content → Prop) :
    Bears volume excused before (Check.scanFrom volume volume.geometry.inodeCount 0)
      fun scanned content => scanned.1 = content.liveInodes volume.geometry :=
  fun backing ready known =>
    ⟨fun _ ends => (Check.scanFrom_ok (Nat.le_of_eq (Nat.zero_add _)) ends).1,
      (scanFrom_bears before _ 0 backing ready known).2⟩

theorem checkChains_bears (before : Content → Prop) (bitmap : Bytes) (inodes : Check.LiveInodes)
    (owners : Check.Owners) :
    Bears volume excused before (Check.checkChains volume bitmap inodes owners)
      fun _ _ => True := by
  induction inodes generalizing owners with
  | nil => exact .pure fun _ _ => trivial
  | cons node rest induction =>
      obtain ⟨number, inode⟩ := node
      refine (chain_bears _).damageOr.plain.andThen fun found => ?_
      split
      · exact (induction owners).andThen fun checked => .pure fun _ _ => trivial
      · exact (induction _).andThen fun checked => .pure fun _ _ => trivial

section Excuses

variable (excuses : ∀ size, accepted size → size % recordLength = 0 → Limit.buffer ≤ size →
  excused (.oversizedBuffer size))

include excuses

section Crowds

variable {overflow : Check.Overflow} {before : Content → Prop}
  (tame : ∀ content, before content → volume.tame accepted content)
  (crowds : ∀ content number, before content →
    Limit.word32 ≤ content.linkCount volume.geometry number → excused (.linkOverflow number))

include tame crowds

theorem checkDirectories_bears (inodes : Check.LiveInodes) :
    Bears volume excused
      (fun content => before content ∧ inodes = content.liveInodes volume.geometry)
      (Check.checkDirectories overflow volume inodes inodes []) fun _ _ => True := by
  rintro backing ready ⟨known, rfl⟩
  refine ⟨fun _ _ => trivial, fun halt ends => ?_⟩
  rcases Check.checkDirectories_error (fun node member => Content.mem_liveInodes.mp member) ends with
    ⟨node, -, -, stopped⟩ | ⟨-, number, many, rfl⟩
  · exact ((list_bears excuses node.1).damageOr backing ready (tame _ known)).2 halt stopped
  · have zero : (Check.linkCount [] number).toNat = 0 := rfl
    rw [zero, Nat.zero_add] at many
    exact crowds _ number known many

theorem checkUnlocked_bears :
    Bears volume excused before (volume.checkUnlocked overflow) fun _ _ => True := by
  have reads : Bears volume excused before volume.readSuperblock fun _ _ => True :=
    (Device.read_bears _ _ _).plain.andThen fun region => .except fun _ _ _ _ => trivial
  refine reads.damageOr.plain.andThen fun found => ?_
  split
  · exact .pure fun _ _ => trivial
  · next superblock =>
    refine (Device.read_bears _ _ _).plain.andThen fun bitmap => ?_
    refine (scanFrom_finds before).bind fun scanned => ?_
    refine (checkChains_bears _ bitmap _ []).andThen fun chains => ?_
    exact (checkDirectories_bears excuses tame crowds scanned.1).andThen fun directories =>
      .pure fun _ _ => trivial

end Crowds

theorem check_endures (start : Content) (crowds : ∀ number,
      Limit.word32 ≤ (start.entered volume.geometry).linkCount volume.geometry number →
        excused (.linkOverflow number)) :
    Endures volume excused (fun content => volume.tame accepted content ∧ content = start)
      (volume.check .breaks) (fun _ => volume.tame accepted) (volume.tame accepted) := by
  have acquires : Endures volume excused
      (fun content => volume.tame accepted content ∧ content = start)
      (volume.directoryLock.acquire .exclusive)
      (fun _ content => volume.tame accepted content ∧ content = start.entered volume.geometry)
      fun content => volume.tame accepted content ∧ True :=
    (DirectoryLock.acquire_endures tame_uncounted .exclusive).both
      (DirectoryLock.acquire_enters start .exclusive)
  have bears : Bears volume excused (fun content => volume.tame accepted content ∧
      content = start.entered volume.geometry) (volume.checkUnlocked .breaks) fun _ _ => True :=
    checkUnlocked_bears excuses (fun _ known => known.1) fun _ number known many =>
      crowds number (known.2 ▸ many)
  rw [check, withDirectoryLock, volume.directoryLock_of_volume]
  change Endures volume excused _ (volume.directoryLock.hold .exclusive _) _ _
  refine Endures.bind (acquires.weaken (fun _ => id) (fun _ _ => id) fun _ known => known.1)
    fun _ => ?_
  refine Endures.ensuring ?_ (fun _ => DirectoryLock.release_endures tame_uncounted)
    (DirectoryLock.release_endures tame_uncounted)
  exact (Endures.query bears fun _ known => known.1).weaken (fun _ => id)
    (fun _ _ known => known.1.1) fun _ => id

theorem listPath_bears (path : String) :
    Bears volume excused (volume.tame accepted) (volume.listPath path) fun _ _ => True := by
  refine (resolve_bears excuses path).plain.andThen fun node => ?_
  refine .guard fun _ => (list_bears excuses _).andThen fun entries => ?_
  exact .mapM fun entry _ => listedEntry_bears _ entry

theorem statPath_bears (path : String) :
    Bears volume excused (volume.tame accepted) (volume.statPath path) fun _ _ => True :=
  (resolve_bears excuses path).plain.andThen fun node => statInode_bears _ node.2 node.1

end Excuses

end Volume

/-! Actions on open files -/

/-- From these open files, the action endures as an update does. -/
def Carries (volume : Volume) (excused : Crash → Prop) (before : Content → Prop) (files : OpenFiles)
    (action : FileAction α) (keeps : Content → Prop) : Prop :=
  ∀ backing, volume.Ready backing → before backing.content →
    Endured volume excused (fun _ => keeps) keeps
      ((action files backing).1, (action files backing).2.2)

namespace Carries

variable {volume : Volume} {excused : Crash → Prop} {before keeps : Content → Prop}
  {files : OpenFiles}

theorem pure (value : α) : Carries volume excused keeps files (Pure.pure value) keeps :=
  fun _ ready known => .ok ready known

theorem lift {update : Update α}
    (endures : Endures volume excused before update (fun _ => keeps) keeps) :
    Carries volume excused before files (liftM update : FileAction α) keeps :=
  endures

theorem bind {action : FileAction α} {next : α → FileAction β}
    (first : Carries volume excused before files action keeps)
    (second : ∀ value files', Carries volume excused keeps files' (next value) keeps) :
    Carries volume excused before files (action >>= next) keeps := by
  intro backing ready known
  have carried := first backing ready known
  rw [FileAction.bind_apply]
  rcases ends : action files backing with ⟨answer, files', between⟩
  rw [ends] at carried
  cases answer with
  | ok value => exact second value files' between carried.ready (carried.value value rfl)
  | error halt =>
      obtain ⟨excuse, left⟩ := carried.halt halt rfl
      exact .error carried.ready excuse left

theorem guard {condition : Prop} [Decidable condition] {error : FsError}
    {next : Unit → FileAction α} (remains : ∀ content, before content → keeps content)
    (passes : ¬ condition → Carries volume excused before files (next ()) keeps) :
    Carries volume excused before files
      (if condition then (MonadExcept.throw error : FileAction Unit) >>= next else next ())
      keeps := by
  split
  · exact fun _ ready known => .error ready trivial (remains _ known)
  · next fails => exact passes fails

theorem forget {action : FileAction α} {before' : Content → Prop}
    (stronger : ∀ content, before content → before' content)
    (carries : Carries volume excused before' files action keeps) :
    Carries volume excused before files action keeps :=
  fun backing ready known => carries backing ready (stronger _ known)

theorem map {action : FileAction α} (function : α → β)
    (carries : Carries volume excused before files action keeps) :
    Carries volume excused before files (function <$> action) keeps := by
  rw [← bind_pure_comp]
  exact carries.bind fun value _ => pure (function value)

/-- An action on the file behind a handle. -/
theorem file {handle : Nat} {next : OpenFile → FileAction α}
    (remains : ∀ content, before content → keeps content)
    (carries : ∀ file, files.get handle = .ok file →
      Carries volume excused before files (next file) keeps) :
    Carries volume excused before files (FileAction.file handle >>= next) keeps := by
  intro backing ready known
  rw [FileAction.bind_apply, FileAction.file]
  cases isOpen : files.get handle with
  | ok file => exact carries file isOpen backing ready known
  | error error => exact .error ready trivial (remains _ known)

theorem insert (file : OpenFile) :
    Carries volume excused keeps files (FileAction.insert file) keeps := by
  intro backing ready known
  rw [FileAction.insert]
  rcases files.insert file with ⟨_ | _, _⟩
  · exact .error ready trivial known
  · exact .ok ready known

theorem setOffset (handle offset : Nat) :
    Carries volume excused keeps files (FileAction.setOffset handle offset) keeps := by
  intro backing ready known
  rw [FileAction.setOffset]
  cases files.setOffset handle offset with
  | ok files => exact .ok ready known
  | error error => exact .error ready trivial known

theorem remove (handle : Nat) :
    Carries volume excused keeps files (FileAction.remove handle) keeps := by
  intro backing ready known
  rw [FileAction.remove]
  cases files.remove handle with
  | ok removed => exact .ok ready known
  | error error => exact .error ready trivial known

end Carries

/-! What files at the same disk hold -/

namespace Content

variable {geometry : Geometry} {content content' : Content}

theorem Stores.of_disk (same : Disk.of geometry content = Disk.of geometry content') {number : Nat}
    {inode : Inode} (stores : content.Stores geometry number inode) :
    content'.Stores geometry number inode := by
  refine ⟨stores.inside, ?_⟩
  have record := congrFun (congrArg Disk.record same) number
  simp only [Disk.of, if_pos stores.inside] at record
  rw [slot, ← record]
  exact stores.found

theorem walk?_of_disk (same : Disk.of geometry content = Disk.of geometry content')
    (budget current : Nat) :
    content.walk? geometry budget current = content'.walk? geometry budget current := by
  induction budget generalizing current with
  | zero => rfl
  | succ budget induction =>
      rw [walk?, walk?]
      by_cases isData : geometry.IsData current
      · have link := congrFun (congrArg Disk.link same) current
        simp only [Disk.of, if_pos isData] at link
        rw [if_pos isData, if_pos isData, next, next, link, induction]
      · rw [if_neg isData, if_neg isData]

theorem chain?_of_disk (same : Disk.of geometry content = Disk.of geometry content') (first : Nat) :
    content.chain? geometry first = content'.chain? geometry first :=
  walk?_of_disk same geometry.blocks first

end Content

/-! Open files -/

/-- The file that a handle stands for: its inode is in its slot and belongs to this very file. -/
structure Content.Serves (content : Content) (geometry : Geometry) (file : OpenFile) (inode : Inode) :
    Prop where
  stores : content.Stores geometry file.inode inode
  isFile : inode.kind = .file
  generation : inode.generation = file.generation

/-- The file declares more bytes than a length and its blocks hold less. -/
structure Content.Lacks (content : Content) (geometry : Geometry) (file : OpenFile) (length : Nat)
    (blocks : List Nat) (inode : Inode) : Prop where
  serves : content.Serves geometry file inode
  cuts : length < inode.size.toNat
  isChain : content.chain? geometry inode.firstBlock.toNat = some blocks
  short : blocks.length * geometry.payloadSize < length

namespace Volume

variable {volume : Volume} {excused : Crash → Prop} {accepted : Nat → Prop}

theorem withOpenFile_endures {file : OpenFile} {kind : LockKind} {body : Update α}
    {before otherwise : Content → Prop} {after : α → Content → Prop}
    (endures : Endures volume excused before body after otherwise)
    (keeps : ∀ content, before content → otherwise content)
    (uncounted : Uncounted volume.geometry before)
    (uncounted' : ∀ value, Uncounted volume.geometry (after value))
    (uncounted'' : Uncounted volume.geometry otherwise) :
    Endures volume excused before (volume.withOpenFile file kind body) after otherwise := by
  refine .withDirectoryLock .shared ?_ keeps uncounted uncounted' uncounted''
  refine .through before (.except (fun _ _ _ => id) keeps) fun range => ?_
  exact endures.withLock range kind keeps

theorem liveInode_bears (before : Content → Prop) (file : OpenFile) :
    Bears volume excused before (volume.liveInode file) fun inode content =>
      content.Serves volume.geometry file inode := by
  refine (getInode_bears before file.inode).bind fun inode => .guard fun same => .pure ?_
  have facts := not_or.mp same
  exact fun _ known => ⟨known.2, not_not.mp facts.1, not_not.mp facts.2⟩

theorem openFile_carries (excuses : ∀ size, accepted size → size % recordLength = 0 →
      Limit.buffer ≤ size → excused (.oversizedBuffer size))
    (files : OpenFiles) (path : String) (mode : AccessMode) :
    Carries volume excused (volume.tame accepted) files (volume.openFile path mode)
      (volume.tame accepted) := by
  refine .bind (.lift (ask_endures .shared (resolve_bears excuses path).plain)) fun node files' => ?_
  exact .guard (fun _ => id) fun _ => .insert _

theorem readFile_carries (files : OpenFiles) (handle count : Nat) :
    Carries volume excused (volume.tame accepted) files (volume.readFile handle count)
      (volume.tame accepted) := by
  refine .file (fun _ => id) fun file _ => .bind (.lift ?_) fun bytes files' => ?_
  · refine withOpenFile_endures ?_ (fun _ => id) tame_uncounted (fun _ => tame_uncounted)
      tame_uncounted
    refine .asking (liveInode_bears _ file).plain (fun _ => id) fun inode _ => ?_
    refine .ite (fun _ => .pure fun _ => id) fun _ => ?_
    refine .asking (chain_bears _).plain (fun _ => id) fun chain _ => ?_
    exact .ask (readChain_bears chain _ _) fun _ => id
  · exact .bind (.setOffset handle _) fun _ _ => .pure bytes

theorem seekFile_carries (files : OpenFiles) (handle : Nat) (origin : Origin) (delta : Int) :
    Carries volume excused (volume.tame accepted) files (volume.seekFile handle origin delta)
      (volume.tame accepted) := by
  refine .file (fun _ => id) fun file _ => .bind (.lift ?_) fun position files' => ?_
  · refine withOpenFile_endures ?_ (fun _ => id) tame_uncounted (fun _ => tame_uncounted)
      tame_uncounted
    exact .asking (liveInode_bears _ file).plain (fun _ => id) fun inode _ => .pure fun _ => id
  · exact .bind (.setOffset handle _) fun _ _ => .pure position

theorem writeFile_carries (files : OpenFiles) (handle : Nat) (bytes : Bytes) :
    Carries volume excused (volume.tame accepted) files (volume.writeFile handle bytes)
      (volume.tame accepted) := by
  refine .file (fun _ => id) fun file _ => .guard (fun _ => id) fun _ => ?_
  refine .bind (.lift ?_) fun stop files' => .setOffset handle stop
  refine withOpenFile_endures ?_ (fun _ => id) tame_uncounted (fun _ => tame_uncounted)
    tame_uncounted
  have serves : Bears volume excused (volume.tame accepted) (volume.liveInode file) fun inode _ =>
      inode.kind = .file :=
    (liveInode_bears _ file).weaken (fun _ => id) fun _ _ _ serves => serves.isFile
  refine .asking serves (fun _ => id) fun inode isFile => .guard (fun _ => id) fun _ => ?_
  refine .ite (fun _ => .pure fun _ => id) fun _ => ?_
  refine .asking (chain_chained inode.firstBlock.toNat) (fun _ => id) fun chain chained => ?_
  refine (growChain_endures Content.Tame.ofRecords _ chained).bind fun chain' => ?_
  refine .given (fun _ known => known.2) fun chained' => .forget (fun _ known => known.1) ?_
  refine .through (volume.tame accepted)
    (writeChain_endures Content.Tame.ofRecords _ bytes chained'.isData) fun _ => ?_
  refine .through (volume.tame accepted) (putInode_tame _ (.of_not_isDirectory ?_)) fun _ =>
    .pure fun _ => id
  simp [Inode.isDirectory, isFile]

/-- A chain that is cut to a length has room for it, or it had no block to lose. -/
theorem eq_of_cut_short {blocks : List Nat} {length : Nat}
    (short : volume.chainCapacity (blocks.take (volume.geometry.blocksFor length)) < length) :
    blocks.take (volume.geometry.blocksFor length) = blocks := by
  refine List.take_of_length_le (Nat.le_of_not_lt fun longer => ?_)
  have enough := volume.geometry.le_blocksFor length
  rw [chainCapacity, List.length_take, Nat.min_eq_left (Nat.le_of_lt longer)] at short
  exact Nat.not_lt.mpr enough short

theorem clearBehind_endures {chain : List Nat} {length : Nat}
    (isData : ∀ block ∈ chain, volume.geometry.IsData block)
    (excuse : volume.chainCapacity chain < length →
      excused (.negativeLength (volume.chainCapacity chain) length)) :
    Endures volume excused (volume.tame accepted) (volume.clearBehind chain length)
      (fun _ => volume.tame accepted) (volume.tame accepted) := by
  refine .ite (fun short => ?_) fun _ => ?_
  · exact (Endures.crash (excuse short) (fun _ _ => False) fun _ => id).bind fun _ _ _ never =>
      never.elim
  · exact .ite (fun _ => writeChain_endures Content.Tame.ofRecords _ _ isData) fun _ =>
      .pure fun _ => id

/-- The bytes that the operation starts on decide whether it may break down. -/
theorem truncateFile_carries (start : Content) (files : OpenFiles) (handle length : Nat)
    (excuses : ∀ file inode blocks, files.get handle = .ok file → file.mode.canWrite = true →
      start.Lacks volume.geometry file length blocks inode →
        excused (.negativeLength (volume.chainCapacity blocks) length)) :
    Carries volume excused (fun content => volume.tame accepted content ∧
        Disk.of volume.geometry content = Disk.of volume.geometry start)
      files (volume.truncateFile handle length) (volume.tame accepted) := by
  have uncounted : Uncounted volume.geometry fun content => volume.tame accepted content ∧
      Disk.of volume.geometry content = Disk.of volume.geometry start :=
    fun content count known => ⟨tame_uncounted content count known.1,
      (Disk.of_write_holders content).trans known.2⟩
  refine .file (fun _ known => known.1) fun file isOpen => .guard (fun _ known => known.1)
    fun canWrite => .lift ?_
  refine withOpenFile_endures ?_ (fun _ known => known.1) uncounted (fun _ => tame_uncounted)
    tame_uncounted
  refine (Endures.query (liveInode_bears _ file) fun _ known => known.1).bind fun inode => ?_
  refine .given (fun _ known => (⟨known.2.stores.of_disk known.1.2, known.2.isFile,
    known.2.generation⟩ : start.Serves volume.geometry file inode)) fun serves => ?_
  refine .forget (fun _ known => known.1) ?_
  refine .ite (fun _ => .pure fun _ known => known.1) fun _ => ?_
  refine (Endures.query (chain_bears _) fun _ known => known.1).bind fun blocks => ?_
  refine .given (fun _ known => (Content.chain?_of_disk known.1.2 _).symm.trans known.2)
    fun isChain => .forget (fun _ known => known.1.1) ?_
  have chained := Chained.of_chain isChain
  dsimp only
  refine .through (volume.tame accepted) ?_ fun chain =>
    putInode_tame _ (.of_not_isDirectory (by simp [Inode.isDirectory, serves.isFile]))
  refine .ite (fun cuts => ?_) fun _ => ?_
  · refine (shrinkChain_endures Content.Tame.ofRecords blocks length).bind fun result => ?_
    obtain ⟨outcome, kept⟩ := result
    refine .given (fun _ known => known.2) fun isKept => .forget (fun _ known => known.1) ?_
    dsimp only at isKept ⊢
    subst isKept
    refine .through (volume.tame accepted) (.except (fun _ _ _ => id) fun _ => id) fun _ => ?_
    refine .through (volume.tame accepted) (clearBehind_endures ?_ fun short => ?_) fun _ =>
      .pure fun _ => id
    · exact fun block member => chained.isData block (List.mem_of_mem_take member)
    · have same := eq_of_cut_short short
      rw [same] at short ⊢
      exact excuses file inode blocks isOpen (by simpa using canWrite) ⟨serves, cuts, isChain, short⟩
  · exact (growChain_endures Content.Tame.ofRecords length chained).weaken (fun _ => id)
      (fun _ _ known => known.1) fun _ => id

end Volume

end ImageFs
