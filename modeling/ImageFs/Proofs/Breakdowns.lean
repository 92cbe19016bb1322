import ImageFs.Proofs.SturdyFiles
import ImageFs.Proofs.Unseen

/-!
Operations on an image with arbitrary bytes. Main statements: whatever the file that an image was
opened on holds, and whatever was done to it since, an operation ends with an answer or an error but
for three causes: a directory that declares more bytes than a buffer can hold, a file that is cut to a
length that its blocks do not reach, and an inode that is linked more often than the check can count.
The first two are shown to break operations down here, the third where checks end.
-/

namespace ImageFs

variable {α β : Type}

/-! Updates that break down for certain -/

/-- From a file that shows the disk, the update breaks down. -/
def Collapses (volume : Volume) (cause : Crash) (disk : Disk) (update : Update α) : Prop :=
  ∀ backing, volume.Ready backing → Disk.of volume.geometry backing.content = disk →
    ∃ final, update backing = (.error (.crashed cause), final) ∧ volume.Ready final

namespace Collapses

variable {volume : Volume} {cause : Crash} {disk : Disk}

theorem halt : Collapses volume cause disk (Update.halt (.crashed cause) : Update α) :=
  fun backing ready _ => ⟨backing, rfl, ready⟩

theorem bind {update : Update α} {next : α → Update β}
    (collapses : Collapses volume cause disk update) :
    Collapses volume cause disk (update >>= next) := by
  intro backing ready shows
  obtain ⟨final, ends, ready'⟩ := collapses backing ready shows
  exact ⟨final, Update.bind_error ends, ready'⟩

theorem ask {query : Query α} {next : α → Update β} {value : α}
    (answers : Answers volume query disk (.ok value))
    (second : Collapses volume cause disk (next value)) :
    Collapses volume cause disk ((liftM query : Update α) >>= next) := by
  intro backing ready shows
  have answered : (liftM query : Update α) backing = (.ok value, backing) := by
    rw [Update.lift_apply, answers backing ready shows]
    rfl
  rw [Update.bind_ok answered]
  exact second backing ready shows

theorem ensuring {update : Update α} {cleanup : Update Unit}
    (collapses : Collapses volume cause disk update)
    (cleans : Endures volume (fun _ => True) (fun _ => True) cleanup (fun _ _ => True)
      fun _ => True) :
    Collapses volume cause disk (update.ensuring cleanup) := by
  intro backing ready shows
  obtain ⟨between, ends, ready'⟩ := collapses backing ready shows
  obtain ⟨ready'', waits, -⟩ := cleans.cleanup ready' trivial
  exact ⟨_, Update.ensuring_apply ends (by simp) waits, ready''⟩

theorem withInode {number : Nat} {kind : LockKind} {body : Update α}
    (inside : number < volume.geometry.inodeCount) (collapses : Collapses volume cause disk body) :
    Collapses volume cause disk (volume.withInode number kind body) := by
  have range : volume.inodeRange number =
      .ok ⟨Area.first volume.geometry (.record number), recordLength⟩ := by
    rw [Volume.inodeRange, volume.inodeOffset_of_lt inside]
    rfl
  have bitmapEnd := volume.geometry.bitmap_le
  have minimum := volume.geometry.minimum
  have bitmapStart : volume.geometry.bitmapOffset = volume.geometry.blockSize := rfl
  have positive : 0 < Area.first volume.geometry (.record number) := by
    simp only [Area.first]
    omega
  have stop := Area.stop_le_imageLength (.record number) inside
  intro backing ready shows
  have span := ByteRange.span_of_le ⟨Area.first volume.geometry (.record number), recordLength⟩
    positive (Nat.succ_pos 255) (Nat.le_trans stop ready.lockable)
  obtain ⟨locks, locked, own, -⟩ :=
    volume.device.lock_of_own kind true span (ByteRange.first_lt_stop span) ready.own
  have acquired : volume.device.acquire ⟨Area.first volume.geometry (.record number), recordLength⟩
      kind backing = (.ok (), { backing with locks }) := Update.bind_ok locked
  rw [Volume.withInode, range]
  change ∃ final, volume.device.withLock _ kind body backing = _ ∧ _
  rw [Device.withLock, Update.bind_ok acquired]
  exact collapses.ensuring (Device.unlock_endures _) _ ⟨ready.long, ready.lockable, own⟩ shows

/-- Nobody else may use the file, so that the lock on the tree is free. -/
theorem withDirectoryLock {kind : LockKind} {body : Update α} {backing : Backing}
    (collapses : Collapses volume cause disk body) (rest : volume.AtRest backing)
    (shows : Disk.of volume.geometry backing.content = disk) :
    (volume.withDirectoryLock kind body backing).1 = .error (.crashed cause) := by
  obtain ⟨content, acquired, size, shows', -⟩ :=
    DirectoryLock.acquire_of_atRest rest shows kind
  have ready : volume.Ready ⟨content, [DirectoryLock.held volume volume.directoryLock.anchor kind]⟩ :=
    ⟨size ▸ rest.long, rest.lockable, DirectoryLock.own_anchor kind nofun⟩
  have releases : Endures volume (fun _ => True) (fun _ => True) volume.directoryLock.release
      (fun _ _ => True) fun _ => True := DirectoryLock.release_endures fun _ _ _ => trivial
  obtain ⟨final, ends, -⟩ := collapses.ensuring releases _ ready shows'
  rw [Volume.withDirectoryLock, volume.directoryLock_of_volume]
  change (volume.directoryLock.hold kind body backing).1 = _
  rw [DirectoryLock.hold, Update.bind_ok acquired, ends]

end Collapses

namespace Volume

variable {volume : Volume} {content : Content} {inode : Inode} {blocks : List Nat}

theorem getInode_answers_of_stores {number : Nat}
    (stores : content.Stores volume.geometry number inode) :
    Answers volume (volume.getInode number) (Disk.of volume.geometry content) (.ok inode) := by
  have found := stores.found
  rw [Content.slot] at found
  refine (readInodeRecord_answers stores.inside).bind (Answers.except ?_)
  simp only [Disk.of, if_pos stores.inside]
  rw [found]
  rfl

theorem chain_answers_of_chain? {first : Nat}
    (found : content.chain? volume.geometry first = some blocks) :
    Answers volume (volume.chain first) (Disk.of volume.geometry content) (.ok blocks) := by
  have isChain := Content.chain?_eq_some.mp found
  have linked : Linked (Disk.of volume.geometry content).link blocks := by
    refine isChain.linked.congr fun block member => ?_
    simp only [Disk.of, if_pos (isChain.isData block member)]
    rfl
  have answers := @chain_answers volume (Disk.of volume.geometry content) blocks isChain.isData
    isChain.nodup linked
  rwa [isChain.head] at answers

/-- A file that lacks blocks does break the operation down that cuts it. -/
theorem truncateFile_collapses {file : OpenFile} {files : OpenFiles} {handle length : Nat}
    {backing : Backing} (rest : volume.AtRest backing) (isOpen : files.get handle = .ok file)
    (writable : file.mode.canWrite = true)
    (lacks : backing.content.Lacks volume.geometry file length blocks inode) :
    (volume.truncateFile handle length files backing).1 =
      .error (.crashed (.negativeLength (volume.chainCapacity blocks) length)) := by
  obtain ⟨serves, cuts, isChain, short⟩ := lacks
  have all : blocks.length ≤ volume.geometry.blocksFor length := by
    by_contra more
    have enough := volume.geometry.le_blocksFor length
    have room := Nat.mul_le_mul_right volume.geometry.payloadSize (Nat.le_of_not_le more)
    omega
  have live : Answers volume (volume.liveInode file) (Disk.of volume.geometry backing.content)
      (.ok inode) := by
    refine (getInode_answers_of_stores serves.stores).bind (Answers.ite_neg ?_ (.pure inode))
    simp [serves.isFile, serves.generation]
  have clears : Collapses volume (.negativeLength (volume.chainCapacity blocks) length)
      (Disk.of volume.geometry backing.content) (volume.clearBehind blocks length) := by
    rw [clearBehind]
    exact (if_pos short).symm ▸ Collapses.halt.bind
  rw [truncateFile, FileAction.bind_apply, FileAction.file, isOpen]
  dsimp only [Except.mapError]
  rw [if_neg (by simp [writable])]
  refine Collapses.withDirectoryLock (Collapses.withInode serves.stores.inside ?_) rest rfl
  refine Collapses.ask live ?_
  rw [if_neg (Nat.ne_of_lt cuts)]
  refine Collapses.ask (chain_answers_of_chain? isChain) ?_
  rw [if_pos cuts, shrinkChain, if_pos all]
  refine Collapses.bind ?_
  change Collapses volume _ _ (volume.clearBehind blocks length >>= fun _ => pure blocks)
  exact clears.bind

theorem readListing_breaks (whole : inode.size.toNat % recordLength = 0)
    (large : Limit.buffer ≤ inode.size.toNat)
    (isChain : content.chain? volume.geometry inode.firstBlock.toNat = some blocks)
    {backing : Backing} (ready : volume.Ready backing)
    (shows : Disk.of volume.geometry backing.content = Disk.of volume.geometry content) :
    volume.readListing inode backing = .error (.crashed (.oversizedBuffer inode.size.toNat)) := by
  rw [readListing]
  dsimp only
  rw [if_neg (not_not.mpr whole)]
  refine (Query.bind_ok (chain_answers_of_chain? isChain backing ready shows)).trans ?_
  rw [if_pos large]
  rfl

/-- A root directory that is too large does break the operation down that lists it. -/
theorem readDirectory_collapses {backing : Backing} (rest : volume.AtRest backing)
    (stores : backing.content.Stores volume.geometry InodeNumber.root inode)
    (isDirectory : inode.isDirectory = true) (whole : inode.size.toNat % recordLength = 0)
    (large : Limit.buffer ≤ inode.size.toNat)
    (isChain : backing.content.chain? volume.geometry inode.firstBlock.toNat = some blocks) :
    (volume.readDirectory "/" backing).1 =
      .error (.crashed (.oversizedBuffer inode.size.toNat)) := by
  refine Collapses.withDirectoryLock (fun locked ready shows => ⟨locked, ?_, ready⟩) rest rfl
  have root := getInode_answers_of_stores stores locked ready shows
  have components : Path.components "/" = .ok [] := by decide +kernel
  have resolves : volume.resolve "/" locked = .ok (inode, InodeNumber.root) := by
    rw [resolve, components]
    exact Query.bind_ok root
  have lists : volume.list InodeNumber.root locked =
      .error (.crashed (.oversizedBuffer inode.size.toNat)) := by
    refine (Query.bind_ok root).trans ?_
    rw [isDirectory]
    exact Query.bind_error (readListing_breaks whole large isChain ready shows)
  rw [Update.lift_apply]
  refine congrArg (Prod.mk · locked) ((Query.bind_ok resolves).trans ?_)
  dsimp only
  rw [isDirectory]
  exact Query.bind_error lists

end Volume

/-! Operations -/

/-- A directory declares this many bytes. -/
def Content.Declares (content : Content) (geometry : Geometry) (size : Nat) : Prop :=
  ∃ number inode, content.Stores geometry number inode ∧ inode.isDirectory = true ∧
    inode.size.toNat = size

theorem Content.tame_declares (content : Content) (geometry : Geometry) :
    content.Tame geometry (content.Declares geometry) :=
  fun number inode stores isDirectory _ => ⟨number, inode, stores, isDirectory, rfl⟩

namespace Image

namespace Operation

open Volume

/-- Whether the operation looks into directories. -/
def looks : Operation → Bool
  | create _ _ | remove _ | openFile _ _ | stat _ | readDirectory _ | check => true
  | closeFile _ | read _ _ | write _ _ | seek _ _ _ | truncate _ _ | usage => false

/-- What an operation may break down for: the size of a directory, if that is an accepted one, a file
behind an open handle that is cut to a length that it has only on paper, or an inode that a check,
counted in, finds linked more often than a counter can tell. -/
inductive Breaks (accepted : Nat → Prop) (geometry : Geometry) (files : OpenFiles)
    (content : Content) : Operation → Crash → Prop where
  | directory {operation : Operation} {size : Nat} (looks : operation.looks = true)
      (accept : accepted size) (whole : size % recordLength = 0) (large : Limit.buffer ≤ size) :
      Breaks accepted geometry files content operation (.oversizedBuffer size)
  | truncate {handle length : Nat} {file : OpenFile} {inode : Inode} {blocks : List Nat}
      (isOpen : files.get handle = .ok file) (writable : file.mode.canWrite = true)
      (lacks : content.Lacks geometry file length blocks inode) :
      Breaks accepted geometry files content (.truncate handle length)
        (.negativeLength (blocks.length * geometry.payloadSize) length)
  | check {number : Nat}
      (many : Limit.word32 ≤ (content.entered geometry).linkCount geometry number) :
      Breaks accepted geometry files content .check (.linkOverflow number)

variable {volume : Volume} {accepted : Nat → Prop}

theorem carries (lockable : volume.geometry.imageLength ≤ Limit.hostOffset) (start : Content)
    (files : OpenFiles) (operation : Operation) :
    Carries volume (operation.Breaks accepted volume.geometry files start)
      (fun content => volume.tame accepted content ∧ content = start)
      files (operation.action volume) (volume.tame accepted) := by
  have excuses : operation.looks = true → ∀ size, accepted size → size % recordLength = 0 →
      Limit.buffer ≤ size →
        operation.Breaks accepted volume.geometry files start (.oversizedBuffer size) :=
    fun looks size => .directory looks
  cases operation with
  | create path kind =>
      refine .forget (fun _ known => known.1) (.bind (.lift ?_) fun _ _ => .pure _)
      exact create_endures (excuses rfl) lockable path _
  | remove path =>
      refine .forget (fun _ known => known.1) (.bind (.lift ?_) fun _ _ => .pure _)
      exact remove_endures (excuses rfl) path
  | openFile path mode =>
      exact .forget (fun _ known => known.1) (.map _ (openFile_carries (excuses rfl) files path mode))
  | closeFile handle =>
      exact .forget (fun _ known => known.1) (.bind (.remove handle) fun _ _ => .pure _)
  | read handle count =>
      exact .forget (fun _ known => known.1) (.map _ (readFile_carries files handle count))
  | write handle bytes =>
      refine .forget (fun _ known => known.1) (.bind ?_ fun _ _ => .pure _)
      exact writeFile_carries files handle bytes
  | seek handle origin delta =>
      exact .forget (fun _ known => known.1) (.map _ (seekFile_carries files handle origin delta))
  | truncate handle length =>
      refine .bind (.forget ?_ (truncateFile_carries start files handle length ?_))
        fun _ _ => .pure _
      · exact fun content known => ⟨known.1, congrArg _ known.2⟩
      · exact fun file inode blocks => .truncate
  | stat path =>
      refine .forget (fun _ known => known.1) (.bind (.lift ?_) fun _ _ => .pure _)
      exact ask_endures .shared (statPath_bears (excuses rfl) path)
  | readDirectory path =>
      refine .forget (fun _ known => known.1) (.bind (.lift ?_) fun _ _ => .pure _)
      exact ask_endures .shared (listPath_bears (excuses rfl) path)
  | usage =>
      exact .forget (fun _ known => known.1) (.bind (.lift usage_endures) fun _ _ => .pure _)
  | check =>
      refine .bind (.lift ?_) fun _ _ => .pure _
      exact check_endures (excuses rfl) start fun number => .check

end Operation

variable {image : Image} {backing : Backing} {accepted : Nat → Prop}

/-! Operations that break down -/

/-- A file that lacks blocks does break down the operation that cuts it. -/
theorem truncate_breaks {handle length : Nat} {file : OpenFile} {inode : Inode} {blocks : List Nat}
    (rest : image.volume.AtRest backing) (isOpen : image.files.get handle = .ok file)
    (writable : file.mode.canWrite = true)
    (lacks : backing.content.Lacks image.volume.geometry file length blocks inode) :
    (image.perform (.truncate handle length) backing).1 =
      .error (.crashed (.negativeLength (image.volume.chainCapacity blocks) length)) := by
  have collapses := Volume.truncateFile_collapses rest isOpen writable lacks
  rw [perform, Operation.action, FileAction.bind_apply]
  rcases ends : image.volume.truncateFile handle length image.files backing with
    ⟨answer, files, after⟩
  rw [ends] at collapses
  cases collapses
  rfl

/-- A root directory that is too large does break down the operation that lists it. -/
theorem readDirectory_breaks {inode : Inode} {blocks : List Nat}
    (rest : image.volume.AtRest backing)
    (stores : backing.content.Stores image.volume.geometry InodeNumber.root inode)
    (isDirectory : inode.isDirectory = true) (whole : inode.size.toNat % recordLength = 0)
    (large : Limit.buffer ≤ inode.size.toNat)
    (isChain : backing.content.chain? image.volume.geometry inode.firstBlock.toNat = some blocks) :
    (image.perform (.readDirectory "/") backing).1 =
      .error (.crashed (.oversizedBuffer inode.size.toNat)) := by
  have collapses :=
    Volume.readDirectory_collapses rest stores isDirectory whole large isChain
  rw [perform, Operation.action, FileAction.bind_apply, FileAction.lift_apply]
  dsimp only
  rw [collapses]

/-! Runs -/

theorem volume_perform (image : Image) (operation : Operation) (backing : Backing) :
    (image.perform operation backing).2.1.volume = image.volume := by
  rw [perform]

theorem perform_endured (ready : image.volume.Ready backing)
    (tame : backing.content.Tame image.volume.geometry accepted) (operation : Operation) :
    Endured image.volume
      (operation.Breaks accepted image.volume.geometry image.files backing.content)
      (fun _ => image.volume.tame accepted) (image.volume.tame accepted)
      ((image.perform operation backing).1, (image.perform operation backing).2.2) :=
  operation.carries ready.lockable backing.content image.files backing ready ⟨tame, rfl⟩

/-- The image and its file after some operations, whatever they answer. -/
def performAll (image : Image) (backing : Backing) : List Operation → Image × Backing
  | [] => (image, backing)
  | operation :: rest =>
      performAll (image.perform operation backing).2.1 (image.perform operation backing).2.2 rest

@[simp] theorem performAll_nil (image : Image) (backing : Backing) :
    image.performAll backing [] = (image, backing) := by
  rw [performAll]

theorem performAll_tame (ready : image.volume.Ready backing)
    (tame : backing.content.Tame image.volume.geometry accepted) (operations : List Operation) :
    (image.performAll backing operations).1.volume = image.volume ∧
      image.volume.Ready (image.performAll backing operations).2 ∧
      (image.performAll backing operations).2.content.Tame image.volume.geometry accepted := by
  induction operations generalizing image backing with
  | nil => exact ⟨rfl, ready, tame⟩
  | cons operation rest induction =>
      have endured := perform_endured ready tame operation
      have sameVolume := volume_perform image operation backing
      have later := @induction (image.perform operation backing).2.1
        (image.perform operation backing).2.2
      rw [sameVolume] at later
      rw [performAll]
      exact later endured.ready endured.kept

theorem volume_of_ofDevice {path : String} {device : Device}
    (opens : ofDevice path device backing = .ok image) : image.volume.device = device := by
  rw [ofDevice] at opens
  split at opens
  · cases opens
  · obtain ⟨region, -, opens⟩ := Query.exists_of_bind_ok opens
    obtain ⟨superblock, -, opens⟩ := Query.exists_of_bind_ok opens
    obtain ⟨geometry, -, opens⟩ := Query.exists_of_bind_ok opens
    obtain ⟨agrees, -, opens⟩ := Query.exists_of_bind_ok opens
    obtain ⟨volume, sized, opens⟩ := Query.exists_of_bind_ok opens
    cases opens
    rw [Volume.ofDevice] at sized
    split at sized
    · cases sized
      rfl
    · cases sized

/-- A new image, but that its root declares more bytes than a buffer can hold. -/
def vastRoot : Inode :=
  { Volume.rootInode with size := UInt64.ofNat Limit.buffer }

def vastContent : Content :=
  (Session.new Session.smallest).backing.content.putRecord Session.smallest InodeNumber.root vastRoot

theorem vastContent_facts : (Session.smallest.volume 0).AtRest ⟨vastContent, []⟩ ∧
    vastContent.size = Session.smallest.imageLength ∧
    vastContent.Stores Session.smallest InodeNumber.root vastRoot ∧
    ofDevice "image" (Session.smallest.volume 0).device ⟨vastContent, []⟩ =
      .ok ⟨Session.smallest.volume 0, .empty⟩ := by
  have order := (@Session.new_reachable Session.smallest (by decide)).1.inOrder
  have inside : InodeNumber.root < Session.smallest.inodeCount := by decide
  have fits : NameFits vastRoot.name := Tree.nameFits_fresh InodeNumber.root
  have frame := Content.sameFrame_putRecord inside fits order.rest.long
  exact ⟨order.rest_of_frame frame, frame.size.trans order.size,
    ⟨inside, Content.slot_putRecord fits⟩, order.opens_of_frame frame⟩

/-- Whatever the bytes of the file that an image is opened on, and whatever was done to it since, an
operation ends with an answer, with an error, or for one of the three causes of a breakdown. A directory
that is too large was declared as such when the image was opened. -/
theorem opened_withstands {path : String} {device : Device} {content : Content} {image' : Image}
    {earlier : List Operation} (opens : ofDevice path device ⟨content, []⟩ = .ok image)
    (whole : device.length = content.size) (short : content.size ≤ Limit.hostOffset)
    (runs : image.performAll ⟨content, []⟩ earlier = (image', backing)) (operation : Operation) :
    (∃ answer, (image'.perform operation backing).1 = .ok answer) ∨
    (∃ error, (image'.perform operation backing).1 = .error (.failed error)) ∨
    ∃ cause, (image'.perform operation backing).1 = .error (.crashed cause) ∧
      operation.Breaks (content.Declares image.volume.geometry) image.volume.geometry image'.files
        backing.content cause := by
  have fits := image.volume.fits
  rw [volume_of_ofDevice opens, whole] at fits
  have ready : image.volume.Ready ⟨content, []⟩ := ⟨fits, Nat.le_trans fits short, nofun⟩
  have later := performAll_tame ready (content.tame_declares image.volume.geometry) earlier
  rw [runs] at later
  dsimp only at later
  obtain ⟨sameVolume, ready', tame'⟩ := later
  rw [← sameVolume] at ready' tame'
  have endured := perform_endured ready' tame' operation
  cases answered : (image'.perform operation backing).1 with
  | ok answer => exact .inl ⟨answer, rfl⟩
  | error halt =>
      have excuse := (endured.halt halt answered).1
      rw [sameVolume] at excuse
      cases halt with
      | failed error => exact .inr (.inl ⟨error, rfl⟩)
      | crashed cause => exact .inr (.inr ⟨cause, rfl, excuse⟩)
      | blocked => exact excuse.elim

/-- Listing a root that is too large is such a case. -/
theorem vastRoot_withstands :
    ∃ image, ofDevice "image" (Session.smallest.volume 0).device ⟨vastContent, []⟩ = .ok image ∧
      (Session.smallest.volume 0).device.length = vastContent.size ∧
      vastContent.size ≤ Limit.hostOffset ∧
      ∃ cause, (image.perform (.readDirectory "/") ⟨vastContent, []⟩).1 = .error (.crashed cause) ∧
        (Operation.readDirectory "/").Breaks (vastContent.Declares image.volume.geometry)
          image.volume.geometry image.files vastContent cause := by
  obtain ⟨rest, size, stores, opens⟩ := vastContent_facts
  have whole : (Session.smallest.volume 0).device.length = vastContent.size := size.symm
  have short : vastContent.size ≤ Limit.hostOffset := by
    rw [size]
    decide
  have breaks := @readDirectory_breaks ⟨Session.smallest.volume 0, .empty⟩ ⟨vastContent, []⟩
    vastRoot [] rest stores rfl (by decide) (by decide) rfl
  refine ⟨_, opens, whole, short, ?_⟩
  rcases opened_withstands opens whole short (performAll_nil _ _) (.readDirectory "/") with
    ⟨answer, ends⟩ | ⟨error, ends⟩ | broken
  · rw [breaks] at ends
    cases ends
  · rw [breaks] at ends
    cases ends
  · exact broken

end Image

end ImageFs
