import ImageFs.Proofs.Bystanders
import ImageFs.Proofs.Handles
import ImageFs.Proofs.OwnLocks

/-!
An image in order among others that have locks on its file and hold the lock on its directory tree.
Main statement: an operation waits for one of them, or it ends and the image is in order, the count of
holders and the locks of the others are as before, and it leaves no lock of its own.
-/

namespace ImageFs

variable {α β : Type}

/-! Files in use -/

/-- The file holds an image in order, the others have these locks on it, and as many holders of the
directory lock are counted. -/
structure Volume.Amid (volume : Volume) (others : LockTable) (holders : Nat) (backing : Backing) :
    Prop where
  size : backing.content.size = volume.geometry.imageLength
  locks : backing.locks = others
  holders : backing.content.holders volume.geometry = holders
  represents : ∃ tree chain,
    Represents volume.geometry (Disk.of volume.geometry backing.content) tree chain

variable {volume : Volume} {others : LockTable} {holders : Nat}

namespace Volume.Amid

variable {backing : Backing}

theorem lockable (amid : volume.Amid others holders backing) :
    volume.geometry.imageLength ≤ Limit.hostOffset := by
  obtain ⟨_, _, represents⟩ := amid.represents
  exact represents.stored.lockable

theorem long (amid : volume.Amid others holders backing) :
    volume.geometry.imageLength ≤ backing.content.size :=
  Nat.le_of_eq amid.size.symm

end Volume.Amid

/-- What the update does to an image in order leaves one, whatever the count of holders. -/
def Volume.Orderly (volume : Volume) (update : Update α) (meets : α → Prop) : Prop :=
  ∀ disk tree chain, Represents volume.geometry disk tree chain →
    ∃ answer after tree' chain', Leads volume update disk answer after ∧
      Represents volume.geometry after tree' chain' ∧ ∀ value, answer = .ok value → meets value

/-- The update waits for one of the others, or it ends and leaves the file among them as it was used
before. -/
def Update.Restores (volume : Volume) (others : LockTable) (holders : Nat) (update : Update α)
    (meets : α → Prop) : Prop :=
  ∀ backing, volume.Amid others holders backing →
    (update backing).1 = .error .blocked ∨
    volume.Amid others holders (update backing).2 ∧
      ∀ value, (update backing).1 = .ok value → meets value

/-! Under the directory lock -/

/-- Alone on the file, what ends under the directory lock leaves the count of holders as it was. -/
theorem Volume.withDirectoryLock_counted {content : Content} {kind : LockKind} {body : Update α}
    {answer : Except FsError α} {after : Disk}
    (lockable : volume.geometry.imageLength ≤ Limit.hostOffset)
    (long : volume.geometry.imageLength ≤ content.size)
    (bound : content.holders volume.geometry + 1 < Limit.word64)
    (leads : Leads volume body (Disk.of volume.geometry content) answer after) :
    ∃ content', volume.withDirectoryLock kind body ⟨content, []⟩ =
        (answer.mapError .failed, ⟨content', []⟩) ∧ content'.size = content.size ∧
      content'.holders volume.geometry = content.holders volume.geometry ∧
      Disk.of volume.geometry content' = after := by
  let registered := DirectoryLock.counted volume content (content.holders volume.geometry + 1)
  let anchorLock := DirectoryLock.held volume volume.directoryLock.anchor kind
  have size : registered.size = content.size := DirectoryLock.size_counted long
  have acquired : volume.directoryLock.acquire kind ⟨content, []⟩ =
      (.ok (), ⟨registered, [anchorLock]⟩) :=
    @LockProtocol.acquire_apply _ volume.alone () content [] kind lockable long
      (fun _ member => by cases member) (fun _ member => by cases member) bound rfl
  have ready : volume.Ready ⟨registered, [anchorLock]⟩ :=
    ⟨size ▸ long, lockable, DirectoryLock.own_anchor kind fun _ member => by cases member⟩
  obtain ⟨between, ends, keeps, shows, counts⟩ :=
    leads _ _ ready DirectoryLock.disk_counted (DirectoryLock.holders_counted bound)
  obtain ⟨content', released, size', shows', counts'⟩ :=
    DirectoryLock.release_of_within keeps.ready keeps.locks shows counts
  refine ⟨content', ?_, size'.trans (keeps.size.trans size), counts', shows'⟩
  rw [Volume.withDirectoryLock, volume.directoryLock_of_volume]
  change (volume.directoryLock.hold kind body) ⟨content, []⟩ = _
  rw [DirectoryLock.hold, Update.bind_ok acquired, Update.ensuring, ends]
  cases answer <;> simp only [Except.mapError, released]

/-- Beside others that do not stand in the way of the lock, what runs under it comes to the same, or it
waits, where it may. -/
theorem Volume.withDirectoryLock_among {content : Content} {kind : LockKind} {mayWait : Prop}
    {body : Update α} {answer : Except FsError α} {after : Disk}
    (lockable : volume.geometry.imageLength ≤ Limit.hostOffset)
    (long : volume.geometry.imageLength ≤ content.size)
    (bound : content.holders volume.geometry + 1 < Limit.word64)
    (free : volume.directoryLock.FreeFor kind others) (heeds : body.Heeds others mayWait)
    (leads : Leads volume body (Disk.of volume.geometry content) answer after) :
    mayWait ∧ (volume.withDirectoryLock kind body ⟨content, others⟩).1 = .error .blocked ∨
    ∃ content', volume.withDirectoryLock kind body ⟨content, others⟩ =
        (answer.mapError .failed, ⟨content', others⟩) ∧ content'.size = content.size ∧
      content'.holders volume.geometry = content.holders volume.geometry ∧
      Disk.of volume.geometry content' = after := by
  obtain ⟨content', alone, facts⟩ :=
    @Volume.withDirectoryLock_counted _ volume content kind body answer after lockable long bound leads
  rcases Volume.withDirectoryLock_heeds free heeds ⟨content, []⟩ with waits | same
  · exact .inl waits
  · rw [alone] at same
    exact .inr ⟨content', same, facts⟩

/-- What asks under the lock ends, where the others do not stand in the way of it. -/
theorem Volume.Amid.ask_ends {backing : Backing} (amid : volume.Amid others holders backing)
    (bound : holders + 1 < Limit.word64) {kind : LockKind}
    (free : volume.directoryLock.FreeFor kind others) {query : Query α} (blind : query.Blind)
    (answers : ∀ disk tree chain, Represents volume.geometry disk tree chain →
      ∃ answer, Answers volume query disk answer) :
    (volume.withDirectoryLock kind (query : Update α) backing).1 ≠ .error .blocked := by
  obtain ⟨content, locks⟩ := backing
  obtain rfl : locks = others := amid.locks
  obtain ⟨tree, chain, represents⟩ := amid.represents
  obtain ⟨answer, answered⟩ := answers _ _ _ represents
  have asks : Update.Heeds locks False (query : Update α) := .ask blind
  rcases Volume.withDirectoryLock_among amid.lockable amid.long (amid.holders.symm ▸ bound) free asks
    (.query answered) with ⟨impossible, -⟩ | ⟨content', ends, -⟩
  · exact impossible.elim
  · rw [ends]
    cases answer <;> exact fun impossible => by cases impossible

namespace Update.Restores

variable {meets : α → Prop}

theorem throw (error : FsError) :
    (MonadExcept.throw error : Update α).Restores volume others holders meets :=
  fun _ amid => .inr ⟨amid, fun _ impossible => by cases impossible⟩

theorem except {computed : Except FsError α} (found : ∀ value, computed = .ok value → meets value) :
    (liftM computed : Update α).Restores volume others holders meets := by
  cases computed with
  | error error => exact throw error
  | ok value =>
      refine fun _ amid => .inr ⟨amid, fun value' same => ?_⟩
      cases same
      exact found value rfl

theorem bind {meets' : β → Prop} {update : Update α} {next : α → Update β}
    (first : update.Restores volume others holders meets)
    (second : ∀ value, meets value → (next value).Restores volume others holders meets') :
    (update >>= next).Restores volume others holders meets' := by
  intro backing amid
  rw [Update.bind_apply]
  rcases first backing amid with waits | ⟨amid', found⟩
  · left
    rw [Update.eq_blocked waits]
  · rcases ran : update backing with ⟨halt | value, after⟩ <;> rw [ran] at amid' found
    · exact .inr ⟨amid', fun _ impossible => by cases impossible⟩
    · exact second value (found value rfl) after amid'

section Foreign

variable (foreign : others.Foreign volume.device.owner)

include foreign

theorem withDirectoryLock (kind : LockKind) {body : Update α} (heeds : body.Heeds others True)
    (orderly : volume.Orderly body meets) :
    (volume.withDirectoryLock kind body).Restores volume others holders meets := by
  rintro ⟨content, locks⟩ amid
  obtain rfl : locks = others := amid.locks
  obtain ⟨tree, chain, represents⟩ := amid.represents
  have isHold : volume.withDirectoryLock kind body = volume.directoryLock.hold kind body := by
    rw [Volume.withDirectoryLock, volume.directoryLock_of_volume]
    rfl
  rcases DirectoryLock.acquire_cases amid.lockable amid.long foreign kind with
    waits | ⟨error, fails⟩ | ⟨bound, free⟩
  · left
    rw [isHold]
    exact congrArg Prod.fst (Update.bind_error (Update.eq_blocked waits))
  · right
    rw [isHold, DirectoryLock.hold, Update.bind_error fails]
    exact ⟨amid, fun _ impossible => by cases impossible⟩
  · obtain ⟨answer, after, tree', chain', leads, represents', found⟩ := orderly _ _ _ represents
    rcases Volume.withDirectoryLock_among amid.lockable amid.long bound free heeds leads with
      ⟨-, waits⟩ | ⟨content', ends, size, counts, shows⟩
    · exact .inl waits
    · right
      rw [ends]
      refine ⟨⟨size.trans amid.size, rfl, counts.trans amid.holders, tree', chain', ?_⟩, ?_⟩
      · exact shows ▸ represents'
      · intro value isValue
        exact found value (Except.mapError_eq_ok_iff.mp isValue)

theorem count : volume.directoryLock.holders.Restores volume others holders fun _ => True := by
  rintro ⟨content, locks⟩ amid
  obtain rfl : locks = others := amid.locks
  rcases DirectoryLock.holders_foreign amid.lockable amid.long foreign with waits | counted
  · exact .inl waits
  · right
    rw [counted]
    exact ⟨amid, fun _ _ => trivial⟩

end Foreign

end Update.Restores

/-! What runs under the lock -/

namespace Volume.Orderly

theorem query {query : Query α} {meets : α → Prop}
    (answers : ∀ disk tree chain, Represents volume.geometry disk tree chain →
      ∃ answer, Answers volume query disk answer ∧ ∀ value, answer = .ok value → meets value) :
    volume.Orderly (liftM query : Update α) meets := by
  intro disk tree chain represents
  obtain ⟨answer, answered, found⟩ := answers disk tree chain represents
  exact ⟨answer, disk, tree, chain, .query answered, represents, found⟩

theorem withInode {number : Nat} (inside : number < volume.geometry.inodeCount) {kind : LockKind}
    {body : Update α} {meets : α → Prop} (orderly : volume.Orderly body meets) :
    volume.Orderly (volume.withInode number kind body) meets := by
  intro disk tree chain represents
  obtain ⟨answer, after, tree', chain', leads, facts⟩ := orderly disk tree chain represents
  exact ⟨answer, after, tree', chain', Volume.withInode_leads inside leads, facts⟩

theorem of_does {update : Update α} (result : Disk → Tree → Except FsError α × Tree)
    (does : ∀ disk tree chain, Represents volume.geometry disk tree chain →
      Does volume update disk (result disk tree)) : volume.Orderly update fun _ => True := by
  intro disk tree chain represents
  obtain ⟨after, chain', leads, represents', -⟩ := does disk tree chain represents
  exact ⟨_, after, _, chain', leads, represents', fun _ _ => trivial⟩

theorem createLocked {path : String} (kind : FileKind) {parents : List String} {name : String}
    (split : Path.splitLast path = .ok (parents, name)) :
    volume.Orderly (volume.createLocked path kind.toInodeKind parents name) fun _ => True := by
  intro disk tree chain represents
  obtain ⟨after, chain', leads, represents', -⟩ := represents.createLocked_leads path kind split
  exact ⟨_, after, _, chain', leads, represents', fun _ _ => trivial⟩

section OpenFile

variable {file : OpenFile} (inside : file.inode < volume.geometry.inodeCount)

include inside

theorem seekLocked (origin : Origin) (delta : Int) :
    volume.Orderly (volume.seekLocked file origin delta) fun _ => True := by
  intro disk tree chain represents
  cases live : tree.contentOf file with
  | none =>
      have fails := represents.liveInode_answers_error inside live
      exact ⟨_, disk, tree, chain, (Leads.query fails).bind_error, represents, fun _ _ => trivial⟩
  | some content =>
      exact ⟨_, disk, tree, chain, represents.seekLocked_leads live origin delta, represents,
        fun _ _ => trivial⟩

variable (taken : InodeNumber.firstFree ≤ file.inode)

include taken

theorem readLocked (count : Nat) :
    volume.Orderly (volume.readLocked file count) fun _ => True := by
  intro disk tree chain represents
  cases live : tree.contentOf file with
  | none =>
      have fails := represents.liveInode_answers_error inside live
      exact ⟨_, disk, tree, chain, (Leads.query fails).bind_error, represents, fun _ _ => trivial⟩
  | some content =>
      exact ⟨_, disk, tree, chain, represents.readLocked_leads taken live count, represents,
        fun _ _ => trivial⟩

theorem writeLocked (bytes : Bytes) :
    volume.Orderly (volume.writeLocked file bytes) fun _ => True :=
  .of_does _ fun _ _ _ represents => represents.writeLocked_does taken inside bytes

theorem truncateLocked (length : Nat) :
    volume.Orderly (volume.truncateLocked file length) fun _ => True :=
  .of_does _ fun _ _ _ represents => represents.truncateLocked_does taken inside length

end OpenFile

end Volume.Orderly

/-! Operations on the volume -/

namespace Volume

variable (foreign : others.Foreign volume.device.owner)

include foreign

theorem create_restores (path : String) (kind : FileKind) :
    (volume.create path kind.toInodeKind).Restores volume others holders fun _ => True := by
  rw [volume.create_eq]
  refine Update.Restores.bind (.except fun _ split => split) fun split isSplit => ?_
  exact .withDirectoryLock foreign .exclusive (createLocked_heeds foreign _ _ _ _)
    (.createLocked kind isSplit)

theorem remove_restores (path : String) :
    (volume.remove path).Restores volume others holders fun _ => True := by
  rw [volume.remove_eq]
  refine Update.Restores.bind (.except fun _ split => split) fun split isSplit => ?_
  exact .withDirectoryLock foreign .exclusive (removeLocked_heeds foreign _ _ _)
    (.of_does _ fun _ _ _ represents => represents.removeLocked_does path isSplit)

theorem ask_restores (kind : LockKind) {query : Query α} (blind : query.Blind)
    (answers : ∀ disk tree chain, Represents volume.geometry disk tree chain →
      ∃ answer, Answers volume query disk answer) :
    (volume.withDirectoryLock kind (query : Update α)).Restores volume others holders
      fun _ => True := by
  refine .withDirectoryLock foreign kind (.ask blind) (.query fun disk tree chain represents => ?_)
  obtain ⟨answer, answered⟩ := answers disk tree chain represents
  exact ⟨answer, answered, fun _ _ => trivial⟩

theorem usage_restores : volume.usage.Restores volume others holders fun _ => True := by
  rw [Volume.usage, volume.directoryLock_of_volume]
  refine Update.Restores.bind (.except fun _ isLock => Except.ok.inj isLock) fun lock isLock => ?_
  subst isLock
  refine Update.Restores.bind (.count foreign) fun counted _ => ?_
  exact ask_restores foreign .shared (usageGiven_blind counted) fun _ _ _ represents =>
    ⟨_, represents.usageGiven_answers counted⟩

theorem withOpenFile_restores {file : OpenFile} (inside : file.inode < volume.geometry.inodeCount)
    (kind : LockKind) {body : Update α} (heeds : body.Heeds others True)
    (orderly : volume.Orderly body fun _ => True) :
    (volume.withOpenFile file kind body).Restores volume others holders fun _ => True :=
  .withDirectoryLock foreign .shared (withInode_heeds foreign file.inode kind heeds)
    (orderly.withInode inside)

end Volume

/-! Operations with open files -/

/-- Every open file was opened as a file of the table. -/
def OpenFiles.Seated (geometry : Geometry) (files : OpenFiles) : Prop :=
  ∀ handle file, files.get? handle = some file →
    InodeNumber.firstFree ≤ file.inode ∧ file.inode < geometry.inodeCount

namespace OpenFiles

variable {geometry : Geometry} {files : OpenFiles}

theorem seated_empty (geometry : Geometry) : OpenFiles.empty.Seated geometry := by
  intro handle file isOpen
  cases isOpen

theorem Seated.setOffset (seated : files.Seated geometry) {handle offset : Nat} {files' : OpenFiles}
    (moves : files.setOffset handle offset = .ok files') : files'.Seated geometry := by
  intro other file isOpen
  rw [OpenFiles.setOffset] at moves
  cases found : files.get? handle with
  | none =>
      rw [found] at moves
      cases moves
  | some moved =>
      rw [found] at moves
      cases moves
      change (files.moved handle moved offset).get? other = some file at isOpen
      rw [get?_moved (get_eq_ok.mpr found)] at isOpen
      split at isOpen
      · cases isOpen
        exact seated handle moved found
      · exact seated other file isOpen

theorem Seated.insert (seated : files.Seated geometry) {file : OpenFile}
    (taken : InodeNumber.firstFree ≤ file.inode) (inside : file.inode < geometry.inodeCount) :
    (files.insert file).2.Seated geometry := by
  intro handle other isOpen
  rw [get?_insert] at isOpen
  split at isOpen
  · cases isOpen
    exact ⟨taken, inside⟩
  · exact seated handle other isOpen

theorem Seated.remove (seated : files.Seated geometry) {handle : Nat} {file : OpenFile}
    {files' : OpenFiles} (removed : files.remove handle = .ok (file, files')) :
    files'.Seated geometry := by
  intro other file isOpen
  rw [get?_remove removed] at isOpen
  split at isOpen
  · cases isOpen
  · exact seated other file isOpen

end OpenFiles

/-- The action waits for one of the others, or it ends and leaves the file among them as it was used
before. -/
def FileAction.Restores (volume : Volume) (others : LockTable) (holders : Nat)
    (action : FileAction α) (meets : α → Prop) : Prop :=
  ∀ files backing, files.Seated volume.geometry → volume.Amid others holders backing →
    (action files backing).1 = .error .blocked ∨
    (action files backing).2.1.Seated volume.geometry ∧
      volume.Amid others holders (action files backing).2.2 ∧
      ∀ value, (action files backing).1 = .ok value → meets value

namespace FileAction.Restores

variable {meets : α → Prop}

theorem pure {value : α} (met : meets value) :
    (Pure.pure value : FileAction α).Restores volume others holders meets := by
  refine fun files backing seated amid => .inr ⟨seated, amid, fun value' same => ?_⟩
  cases same
  exact met

theorem throw (error : FsError) :
    (MonadExcept.throw error : FileAction α).Restores volume others holders meets :=
  fun _ _ seated amid => .inr ⟨seated, amid, fun _ impossible => by cases impossible⟩

theorem bind {meets' : β → Prop} {action : FileAction α} {next : α → FileAction β}
    (first : action.Restores volume others holders meets)
    (second : ∀ value, meets value → (next value).Restores volume others holders meets') :
    (action >>= next).Restores volume others holders meets' := by
  intro files backing seated amid
  rw [FileAction.bind_apply]
  have ended := first files backing seated amid
  generalize action files backing = result at ended
  obtain ⟨halt | value, files', after⟩ := result
  · rcases ended with waits | ⟨seated', amid', -⟩
    · cases waits
      exact .inl rfl
    · exact .inr ⟨seated', amid', fun _ impossible => by cases impossible⟩
  · rcases ended with impossible | ⟨seated', amid', found⟩
    · cases impossible
    · exact second value (found value rfl) files' after seated' amid'

theorem map {meets' : β → Prop} {action : FileAction α} (function : α → β)
    (first : action.Restores volume others holders meets)
    (found : ∀ value, meets value → meets' (function value)) :
    (function <$> action).Restores volume others holders meets' := by
  rw [← bind_pure_comp]
  exact first.bind fun value met => pure (found value met)

theorem ite {condition : Prop} [Decidable condition] {yes no : FileAction α}
    (holds : condition → yes.Restores volume others holders meets)
    (fails : ¬ condition → no.Restores volume others holders meets) :
    (if condition then yes else no).Restores volume others holders meets := by
  split
  · next isTrue => exact holds isTrue
  · next isFalse => exact fails isFalse

theorem lift {update : Update α} (restores : update.Restores volume others holders meets) :
    (liftM update : FileAction α).Restores volume others holders meets := by
  intro files backing seated amid
  rw [FileAction.lift_apply]
  rcases restores backing amid with waits | ⟨amid', found⟩
  · exact .inl waits
  · exact .inr ⟨seated, amid', found⟩

theorem file (handle : Nat) : (FileAction.file handle).Restores volume others holders fun file =>
    InodeNumber.firstFree ≤ file.inode ∧ file.inode < volume.geometry.inodeCount := by
  intro files backing seated amid
  refine .inr ⟨seated, amid, fun file found => ?_⟩
  exact seated handle file (OpenFiles.get_eq_ok.mp (Except.mapError_eq_ok_iff.mp found))

theorem setOffset (handle offset : Nat) :
    (FileAction.setOffset handle offset).Restores volume others holders fun _ => True := by
  intro files backing seated amid
  rw [FileAction.setOffset]
  cases moves : files.setOffset handle offset with
  | error error => exact .inr ⟨seated, amid, fun _ _ => trivial⟩
  | ok files' => exact .inr ⟨seated.setOffset moves, amid, fun _ _ => trivial⟩

theorem insert {file : OpenFile} (taken : InodeNumber.firstFree ≤ file.inode)
    (inside : file.inode < volume.geometry.inodeCount) :
    (FileAction.insert file).Restores volume others holders fun _ => True :=
  fun _ _ seated amid => .inr ⟨seated.insert taken inside, amid, fun _ _ => trivial⟩

theorem remove (handle : Nat) :
    (FileAction.remove handle).Restores volume others holders fun _ => True := by
  intro files backing seated amid
  rw [FileAction.remove]
  cases removed : files.remove handle with
  | error error => exact .inr ⟨seated, amid, fun _ _ => trivial⟩
  | ok found => exact .inr ⟨seated.remove removed, amid, fun _ _ => trivial⟩

end FileAction.Restores

namespace Volume

variable (foreign : others.Foreign volume.device.owner)

include foreign

/-- A path that names a file names one of the table. -/
theorem resolve_restores (path : String) :
    (volume.withDirectoryLock .shared (volume.resolve path : Update (Inode × Nat))).Restores volume
      others holders fun found => found.1.isDirectory = false →
        InodeNumber.firstFree ≤ found.2 ∧ found.2 < volume.geometry.inodeCount := by
  refine .withDirectoryLock foreign .shared (.ask (resolve_blind path)) (.query ?_)
  intro disk tree chain represents
  refine ⟨_, represents.resolve_answers path, fun found isFound notDirectory => ?_⟩
  cases resolved : Represents.resolved tree path with
  | error error =>
      rw [resolved] at isFound
      cases isFound
  | ok node =>
      rw [resolved] at isFound
      cases isFound
      obtain ⟨live, notAnchor⟩ := represents.wellFormed.resolved_live resolved
      obtain ⟨children, rootBody⟩ := represents.wellFormed.rootBody
      have notRoot : node ≠ InodeNumber.root := by
        rintro rfl
        rw [Node.isDirectory_inode, Node.children_of_directory rootBody] at notDirectory
        exact of_decide_eq_false notDirectory rootBody
      have first : InodeNumber.firstFree = 2 := rfl
      have root : InodeNumber.root = 0 := rfl
      have anchor : InodeNumber.anchor = 1 := rfl
      exact ⟨show InodeNumber.firstFree ≤ node by omega,
        represents.wellFormed.lt_of_isLive live⟩

theorem openFile_restores (path : String) (mode : AccessMode) :
    (volume.openFile path mode).Restores volume others holders fun _ => True := by
  refine FileAction.Restores.bind (.lift (resolve_restores foreign path)) fun found isFile => ?_
  refine .ite (fun _ => .throw _) fun notDirectory => ?_
  obtain ⟨taken, inside⟩ := isFile (Bool.eq_false_iff.mpr notDirectory)
  exact .insert taken inside

theorem readFile_restores (handle count : Nat) :
    (volume.readFile handle count).Restores volume others holders fun _ => True := by
  rw [volume.readFile_eq]
  refine FileAction.Restores.bind (.file handle) fun file seated => ?_
  refine FileAction.Restores.bind (.lift (withOpenFile_restores foreign seated.2 .shared
    (readLocked_heeds file count) (.readLocked seated.2 seated.1 count))) fun bytes _ => ?_
  exact (FileAction.Restores.setOffset _ _).bind fun _ _ => .pure trivial

theorem seekFile_restores (handle : Nat) (origin : Origin) (delta : Int) :
    (volume.seekFile handle origin delta).Restores volume others holders fun _ => True := by
  rw [volume.seekFile_eq]
  refine FileAction.Restores.bind (.file handle) fun file seated => ?_
  refine FileAction.Restores.bind (.lift (withOpenFile_restores foreign seated.2 .shared
    (seekLocked_heeds file origin delta) (.seekLocked seated.2 origin delta))) fun position _ => ?_
  exact (FileAction.Restores.setOffset _ _).bind fun _ _ => .pure trivial

theorem writeFile_restores (handle : Nat) (bytes : Bytes) :
    (volume.writeFile handle bytes).Restores volume others holders fun _ => True := by
  rw [volume.writeFile_eq]
  refine FileAction.Restores.bind (.file handle) fun file seated => ?_
  refine .ite (fun _ => .throw _) fun _ => ?_
  refine FileAction.Restores.bind (.lift (withOpenFile_restores foreign seated.2 .exclusive
    (writeLocked_heeds foreign file bytes) (.writeLocked seated.2 seated.1 bytes))) fun stop _ => ?_
  exact .setOffset _ _

theorem truncateFile_restores (handle length : Nat) :
    (volume.truncateFile handle length).Restores volume others holders fun _ => True := by
  rw [volume.truncateFile_eq]
  refine FileAction.Restores.bind (.file handle) fun file seated => ?_
  refine .ite (fun _ => .throw _) fun _ => ?_
  exact .lift (withOpenFile_restores foreign seated.2 .exclusive
    (truncateLocked_heeds foreign file length) (.truncateLocked seated.2 seated.1 length))

end Volume

/-- Every operation of an image in order waits for one of the others, or it ends and leaves the file
among them as it was used before. -/
theorem Image.Operation.restores (foreign : others.Foreign volume.device.owner)
    (operation : Image.Operation) :
    (operation.action volume).Restores volume others holders fun _ => True := by
  cases operation with
  | create path kind =>
      exact .bind (.lift (volume.create_restores foreign path kind)) fun _ _ => .pure trivial
  | remove path =>
      exact .bind (.lift (volume.remove_restores foreign path)) fun _ _ => .pure trivial
  | openFile path mode =>
      exact .map _ (volume.openFile_restores foreign path mode) fun _ _ => trivial
  | closeFile handle => exact .bind (.remove handle) fun _ _ => .pure trivial
  | read handle count =>
      exact .map _ (volume.readFile_restores foreign handle count) fun _ _ => trivial
  | write handle bytes =>
      exact .bind (volume.writeFile_restores foreign handle bytes) fun _ _ => .pure trivial
  | seek handle origin delta =>
      exact .map _ (volume.seekFile_restores foreign handle origin delta) fun _ _ => trivial
  | truncate handle length =>
      exact .bind (volume.truncateFile_restores foreign handle length) fun _ _ => .pure trivial
  | stat path =>
      exact .bind (.lift (volume.ask_restores foreign .shared (volume.statPath_blind path)
        fun _ _ _ represents => ⟨_, represents.statPath_answers path⟩)) fun _ _ => .pure trivial
  | readDirectory path =>
      exact .bind (.lift (volume.ask_restores foreign .shared (volume.listPath_blind path)
        fun _ _ _ represents => ⟨_, represents.listPath_answers path⟩)) fun _ _ => .pure trivial
  | usage => exact .bind (.lift (volume.usage_restores foreign)) fun _ _ => .pure trivial
  | check =>
      exact .bind (.lift (volume.ask_restores foreign .exclusive volume.checkUnlocked_blind
        fun _ _ _ represents => ⟨_, represents.check_answers⟩)) fun _ _ => .pure trivial

end ImageFs
