import ImageFs.Proofs.Relabels
import ImageFs.Proofs.Sturdy

/-!
The inodes and the directories on an image with arbitrary bytes. A directory may declare more bytes
than any buffer can hold; asking for its records is what breaks down. Main statements: lookups, and the
changes of the tree, endure apart from that, and they never declare such a directory themselves.
-/

namespace ImageFs

/-! What the slots hold -/

structure Content.Stores (content : Content) (geometry : Geometry) (number : Nat) (inode : Inode) :
    Prop where
  inside : number < geometry.inodeCount
  found : content.slot geometry number = .ok inode

/-- A directory is no larger than a buffer, unless its size is accepted. -/
def Inode.Tame (accepted : Nat → Prop) (inode : Inode) : Prop :=
  inode.isDirectory = true → Limit.buffer ≤ inode.size.toNat → accepted inode.size.toNat

namespace Inode.Tame

variable {accepted : Nat → Prop} {inode : Inode}

theorem of_not_isDirectory (other : inode.isDirectory = false) : inode.Tame accepted := by
  intro isDirectory
  rw [other] at isDirectory
  cases isDirectory

theorem of_lt (small : inode.size.toNat < Limit.buffer) : inode.Tame accepted :=
  fun _ large => absurd large (Nat.not_le.mpr small)

end Inode.Tame

namespace Content

variable {content : Content} {geometry : Geometry} {accepted : Nat → Prop} {number : Nat}
  {inode : Inode} {record : Bytes}

namespace Stores

theorem directory (stores : content.Stores geometry number inode)
    (isDirectory : inode.isDirectory = true) : content.Directory geometry number := by
  have isInode : content.inode geometry number = inode := by
    rw [Content.inode, stores.found]
    rfl
  have isKind : inode.kind = .directory := by simpa [Inode.isDirectory] using isDirectory
  refine ⟨⟨stores.inside, ?_⟩, by rw [isInode, isDirectory]⟩
  rw [isInode, Inode.isEmpty, isKind]
  rfl

theorem isDirectory (stores : content.Stores geometry number inode)
    (directory : content.Directory geometry number) : inode.isDirectory = true := by
  have isDirectory := directory.isDirectory
  rwa [Content.inode, stores.found] at isDirectory

theorem of_directory (directory : content.Directory geometry number) :
    content.Stores geometry number (content.inode geometry number) :=
  ⟨directory.live.inside, slot_of_live directory.live⟩

end Stores

/-- All directories are tame. -/
def Tame (geometry : Geometry) (accepted : Nat → Prop) (content : Content) : Prop :=
  ∀ number inode, content.Stores geometry number inode → inode.Tame accepted

/-- All directories are tame, and one of them is in this slot. -/
structure Houses (geometry : Geometry) (accepted : Nat → Prop) (number : Nat) (content : Content) :
    Prop where
  tame : content.Tame geometry accepted
  directory : content.Directory geometry number

theorem Tame.ofRecords : OfRecords geometry (Tame geometry accepted) := by
  intro content content' same tame number inode stores
  have found := stores.found
  rw [slot, same number stores.inside] at found
  exact tame number inode ⟨stores.inside, found⟩

theorem Tame.write_record (tame : content.Tame geometry accepted) (tame' : inode.Tame accepted)
    (inside : number < geometry.inodeCount) (encoded : inode.encode = .ok record) :
    (content.write (Area.first geometry (.record number)) record).Tame geometry accepted := by
  intro other inode' stores
  have found := stores.found
  by_cases same : other = number
  · subst same
    rw [slot_write encoded] at found
    cases found
    exact tame'
  · rw [slot_write_other inside stores.inside same encoded] at found
    exact tame other inode' ⟨stores.inside, found⟩

theorem Directory.of_slot {content' : Content} (directory : content.Directory geometry number)
    (same : content'.slot geometry number = content.slot geometry number) :
    content'.Directory geometry number := by
  have stores := Stores.of_directory directory
  exact Stores.directory ⟨stores.inside, same.trans stores.found⟩ directory.isDirectory

theorem Houses.ofRecords : OfRecords geometry (Houses geometry accepted number) := by
  intro content content' same houses
  refine ⟨Tame.ofRecords content content' same houses.tame, houses.directory.of_slot ?_⟩
  rw [slot, same number houses.directory.live.inside, slot]

/-- A directory stays when another slot is written to. -/
theorem Houses.write_record {other : Nat} (houses : content.Houses geometry accepted number)
    (tame : inode.Tame accepted) (inside : other < geometry.inodeCount) (different : number ≠ other)
    (encoded : inode.encode = .ok record) :
    (content.write (Area.first geometry (.record other)) record).Houses geometry accepted number where
  tame := houses.tame.write_record tame inside encoded
  directory := houses.directory.of_slot
    (slot_write_other inside houses.directory.live.inside different encoded)

end Content

namespace Volume

variable {volume : Volume} {excused : Crash → Prop} {accepted : Nat → Prop}

abbrev tame (volume : Volume) (accepted : Nat → Prop) : Content → Prop :=
  Content.Tame volume.geometry accepted

/-! The inode table -/

theorem getInode_bears (before : Content → Prop) (number : Nat) :
    Bears volume excused before (volume.getInode number) fun inode content =>
      content.Stores volume.geometry number inode := by
  by_cases inside : number < volume.geometry.inodeCount
  · have reads : Bears volume excused before (volume.getInode number) fun _ _ => True := by
      refine Bears.andThen ?_ fun record => .except fun _ _ _ _ => trivial
      rw [readInodeRecord, volume.inodeOffset_of_lt inside]
      exact (Device.read_bears before _ _).plain
    have judged : Bears volume excused before (volume.getInode number) fun inode content =>
        (content.slot volume.geometry number).toOption = some inode :=
      reads.of_judges fun backing => volume.getInode_judges backing inside
    refine judged.weaken (fun _ => id) fun inode content _ found => ⟨inside, ?_⟩
    cases isSlot : content.slot volume.geometry number with
    | ok inode' =>
        rw [isSlot] at found
        cases found
        rfl
    | error error =>
        rw [isSlot] at found
        cases found
  · rw [getInode, readInodeRecord, inodeOffset, Geometry.inodeOffset?, if_neg inside]
    exact .throw _ _

theorem getInode_tame (number : Nat) :
    Bears volume excused (volume.tame accepted) (volume.getInode number) fun inode _ =>
      inode.Tame accepted :=
  (getInode_bears _ number).weaken (fun _ => id) fun inode _ tame stores => tame number inode stores

theorem findEmpty_bears (before : Content → Prop) (count number : Nat) :
    Bears volume excused before (volume.findEmpty count number) fun _ _ => True := by
  induction count generalizing number with
  | zero => exact .pure fun _ _ => trivial
  | succ count induction =>
      refine (getInode_bears before number).plain.andThen fun inode => ?_
      exact .ite (fun _ => .pure fun _ _ => trivial) fun _ => induction (number + 1)

theorem liveFrom_bears (before : Content → Prop) (count number : Nat) :
    Bears volume excused before (volume.liveFrom count number) fun _ _ => True := by
  induction count generalizing number with
  | zero => exact .pure fun _ _ => trivial
  | succ count induction =>
      refine (getInode_bears before number).plain.andThen fun inode => ?_
      exact (induction (number + 1)).andThen fun rest => .pure fun _ _ => trivial

/-- What is kept must not mind the record that is written. -/
theorem putInode_endures {before keeps : Content → Prop} {number : Nat} {inode : Inode}
    (remains : ∀ content, before content → keeps content)
    (writes : ∀ content record, number < volume.geometry.inodeCount → inode.encode = .ok record →
      before content →
        keeps (content.write (Area.first volume.geometry (.record number)) record)) :
    Endures volume excused before (volume.putInode number inode) (fun _ => keeps) keeps := by
  rw [putInode]
  refine .guard remains fun _ => ?_
  rw [writeInode]
  cases encoded : inode.encode with
  | error error => exact .throw _ _ remains
  | ok record =>
      refine .liftOk rfl ?_
      by_cases inside : number < volume.geometry.inodeCount
      · rw [writeInodeRecord, volume.inodeOffset_of_lt inside]
        have stop := Area.stop_le_imageLength (.record number) inside
        refine Device.write_endures ?_ fun content => writes content record inside encoded
        rw [Inode.length_encode encoded]
        exact stop
      · rw [writeInodeRecord, inodeOffset, Geometry.inodeOffset?, if_neg inside]
        exact .throw _ _ remains

theorem putInode_tame (number : Nat) {inode : Inode} (tame : inode.Tame accepted) :
    Endures volume excused (volume.tame accepted) (volume.putInode number inode)
      (fun _ => volume.tame accepted) (volume.tame accepted) :=
  putInode_endures (fun _ => id) fun _ _ inside encoded known =>
    known.write_record tame inside encoded

/-- The new inode does not take the slot of a directory. -/
theorem insertInode_endures {directory : Nat} {inode : Inode} (tame : inode.Tame accepted) :
    Endures volume excused (Content.Houses volume.geometry accepted directory)
      (volume.insertInode inode) (fun _ => Content.Houses volume.geometry accepted directory)
      (Content.Houses volume.geometry accepted directory) := by
  refine .asking (Device.readWord_bears _ _).plain (fun _ => id) fun cursor _ => ?_
  refine .guard (fun _ => id) fun _ => ?_
  refine .guard (fun _ => id) fun _ => ?_
  refine (Endures.query (getInode_bears _ cursor) fun _ => id).bind fun slot => ?_
  refine .guard (fun _ known => known.1) fun vacant => ?_
  have vacant' : slot.isEmpty = true := by simpa using vacant
  refine .through (Content.Houses volume.geometry accepted directory) ?_ fun _ => ?_
  · refine putInode_endures (fun _ known => known.1) fun content record inside encoded known => ?_
    have tame' : ({ inode with generation := slot.generation } : Inode).Tame accepted := tame
    refine known.1.write_record tame' inside (fun same => ?_) encoded
    subst same
    have isDirectory := known.2.isDirectory known.1.directory
    simp only [Inode.isDirectory, Inode.isEmpty, decide_eq_true_eq] at isDirectory vacant'
    rw [isDirectory] at vacant'
    cases vacant'
  · refine .asking (findEmpty_bears _ _ _) (fun _ => id) fun next _ => ?_
    refine (writeCounter_endures Content.Houses.ofRecords .nextFreeInode _).bind fun _ => ?_
    exact .pure fun _ => id

theorem emptyInode_endures (number : Nat) :
    Endures volume excused (volume.tame accepted) (volume.emptyInode number)
      (fun _ => volume.tame accepted) (volume.tame accepted) := by
  rw [emptyInode]
  refine .guard (fun _ => id) fun _ => ?_
  refine .asking (getInode_bears _ number).plain (fun _ => id) fun inode _ => ?_
  refine .through (volume.tame accepted)
    (putInode_tame number (.of_not_isDirectory rfl)) fun _ => ?_
  refine .asking (Device.readWord_bears _ _).plain (fun _ => id) fun cursor _ => ?_
  refine .ite (fun _ => ?_) fun _ => .pure fun _ => id
  exact writeCounter_endures Content.Tame.ofRecords .nextFreeInode number

/-! Reading directories -/

/-- The bytes that a directory declares lie in the blocks of its listing, and a buffer holds them. -/
structure Listed (volume : Volume) (directory : Inode) (listing : Listing) : Prop where
  small : directory.size.toNat < Limit.buffer
  within : directory.size.toNat ≤ volume.chainCapacity listing.chain
  chained : Chained volume.geometry listing.chain volume.geometry.blocks

/-- A directory has less bytes than the image, so it stays small when it gets one more record. -/
theorem Listed.extended {directory : Inode} {listing : Listing}
    (listed : volume.Listed directory listing)
    (lockable : volume.geometry.imageLength ≤ Limit.hostOffset) :
    directory.size.toNat + recordLength < Limit.buffer := by
  have image := volume.geometry.data_length_le
  have capacity : volume.chainCapacity listing.chain ≤
      volume.geometry.blocks * volume.geometry.blockSize :=
    Nat.mul_le_mul listed.chained.short (Nat.sub_le _ _)
  have within := listed.within
  simp only [recordLength, Limit.buffer, Limit.hostOffset] at lockable ⊢
  omega

section Excuses

variable (excuses : ∀ size, accepted size → size % recordLength = 0 → Limit.buffer ≤ size →
  excused (.oversizedBuffer size))

include excuses

theorem readListing_bears {directory : Inode} (before : Content → Prop)
    (tame : directory.Tame accepted) (isDirectory : directory.isDirectory = true) :
    Bears volume excused before (volume.readListing directory) fun listing _ =>
      volume.Listed directory listing := by
  rw [readListing]
  refine .guard fun whole => ?_
  refine (chain_chained directory.firstBlock.toNat).knowing fun chain chained => ?_
  refine .ite (fun large => ?_) fun small => ?_
  · have excuse := excuses _ (tame isDirectory large) (not_not.mp whole) large
    exact (Bears.crash excuse fun _ _ => False).knowing fun _ never => never.elim
  · have bounded : directory.size.toNat < Limit.word64 := directory.size.toNat_lt
    refine (readChain_bears chain 0 _).knowing fun bytes within =>
      .pure fun _ _ => ⟨?_, ?_, chained⟩
    · exact Nat.not_le.mp small
    · dsimp only at within ⊢
      omega

theorem lookup_bears {directory : Inode} (before : Content → Prop) (tame : directory.Tame accepted)
    (isDirectory : directory.isDirectory = true) (name : String) :
    Bears volume excused before (volume.lookup directory name) fun _ _ => True := by
  refine (readListing_bears excuses before tame isDirectory).plain.andThen fun listing => ?_
  split
  · exact .pure fun _ _ => trivial
  · exact (Bears.except fun _ _ _ _ => trivial).andThen fun entry => .pure fun _ _ => trivial

/-- A walk ends with an inode that is in its slot. -/
theorem walk_bears (path : String) (names : List String) (inode : Inode) (number : Nat) :
    Bears volume excused
      (fun content => volume.tame accepted content ∧ content.Stores volume.geometry number inode)
      (volume.walk path names inode number)
      fun node content => content.Stores volume.geometry node.2 node.1 := by
  induction names generalizing inode number with
  | nil => exact .pure fun _ known => known.2
  | cons name rest induction =>
      rw [walk]
      refine .guard fun isDirectory => ?_
      refine .given (fun _ known => known.1 number inode known.2) fun tame => ?_
      refine (lookup_bears excuses _ tame (by simpa using isDirectory) name).andThen fun found => ?_
      split
      · exact .throw _ _
      · next child =>
        refine .guard fun _ => (getInode_bears _ child).bind fun node => ?_
        refine .guard fun _ => (induction node child).weaken (fun _ known => ?_) fun _ _ _ => id
        exact ⟨known.1.1, known.2⟩

theorem walkFromRoot_bears (path : String) (names : List String) :
    Bears volume excused (volume.tame accepted) (volume.walkFromRoot path names)
      fun node content => content.Stores volume.geometry node.2 node.1 :=
  (getInode_bears _ InodeNumber.root).bind fun root => walk_bears excuses path names root _

theorem resolve_bears (path : String) :
    Bears volume excused (volume.tame accepted) (volume.resolve path)
      fun node content => content.Stores volume.geometry node.2 node.1 :=
  (Bears.except fun _ _ _ _ => trivial).andThen fun names => walkFromRoot_bears excuses path names

theorem list_bears (directory : Nat) :
    Bears volume excused (volume.tame accepted) (volume.list directory) fun _ _ => True := by
  refine (getInode_tame directory).knowing fun inode tame => .guard fun isDirectory => ?_
  refine (readListing_bears excuses _ tame (by simpa using isDirectory)).plain.andThen
    fun listing => ?_
  exact .mapM fun slot _ => .except fun _ _ _ _ => trivial

/-! Changing directories -/

variable (lockable : volume.geometry.imageLength ≤ Limit.hostOffset)

include lockable in
/-- A directory that gets one more record is still tame. -/
theorem appendEntry_endures (directory : Nat) (name : String) (target : Nat) :
    Endures volume excused (Content.Houses volume.geometry accepted directory)
      (volume.appendEntry directory name target) (fun _ => volume.tame accepted)
      (volume.tame accepted) := by
  refine (Endures.query (getInode_bears _ directory) fun _ => Content.Houses.tame).bind
    fun inode => ?_
  refine .given (fun _ known => known.1.tame directory inode known.2) fun tame => ?_
  refine .given (fun _ known => known.2.isDirectory known.1.directory) fun isDirectory => ?_
  refine .forget (fun _ known => known.1.tame) ?_
  refine .asking (readListing_bears excuses _ tame isDirectory) (fun _ => id)
    fun listing listed => ?_
  refine .guard (fun _ => id) fun _ => ?_
  refine .through (volume.tame accepted) (.except (fun _ _ _ => id) fun _ => id) fun record => ?_
  have size : (UInt64.ofNat (inode.size.toNat + recordLength)).toNat < Limit.buffer :=
    Nat.lt_of_le_of_lt (Nat.mod_le _ _) (listed.extended lockable)
  have appends : Endures volume excused (volume.tame accepted)
      (do
        let chain ← volume.growChain listing.chain (inode.size.toNat + recordLength)
        volume.writeChain chain inode.size.toNat record
        volume.putInode directory { inode with
          size := UInt64.ofNat (inode.size.toNat + recordLength)
          firstBlock := UInt64.ofNat (chain.headD 0) })
      (fun _ => volume.tame accepted) (volume.tame accepted) := by
    refine (growChain_endures Content.Tame.ofRecords _ listed.chained).bind fun chain => ?_
    refine .given (fun _ known => known.2) fun chained => .forget (fun _ known => known.1) ?_
    refine .through (volume.tame accepted)
      (writeChain_endures Content.Tame.ofRecords _ record chained.isData) fun _ => ?_
    exact putInode_tame directory (.of_lt size)
  dsimp only
  split
  · next tail _ =>
    refine .through (volume.tame accepted) (.except (fun _ _ _ => id) fun _ => id) fun range => ?_
    exact .withLock range .exclusive appends fun _ => id
  · exact appends

include lockable in
theorem create_endures (path : String) (kind : InodeKind) :
    Endures volume excused (volume.tame accepted) (volume.create path kind)
      (fun _ => volume.tame accepted) (volume.tame accepted) := by
  have uncounted : Uncounted volume.geometry (volume.tame accepted) :=
    Content.Tame.ofRecords.uncounted
  rw [create]
  refine .guard (fun _ => id) fun _ => ?_
  refine .through (volume.tame accepted) (.except (fun _ _ _ => id) fun _ => id) fun place => ?_
  obtain ⟨parents, name⟩ := place
  refine .withDirectoryLock .exclusive ?_ (fun _ => id) uncounted (fun _ => uncounted) uncounted
  have walks := Endures.query (@walkFromRoot_bears volume excused accepted excuses path parents)
    fun _ => id
  refine (walks.tryCatch fun error => ?_).bind fun node => ?_
  · split <;> exact .throw _ _ fun _ => id
  obtain ⟨parent, parentNumber⟩ := node
  dsimp only
  refine .guard (fun _ known => known.1) fun isDirectory => ?_
  have isDirectory' : parent.isDirectory = true := by simpa using isDirectory
  refine .given (fun _ known => known.1 parentNumber parent known.2) fun tame => ?_
  refine .forget (fun _ known => (⟨known.1, known.2.directory isDirectory'⟩ :
    Content.Houses volume.geometry accepted parentNumber _)) ?_
  refine .asking (lookup_bears excuses _ tame isDirectory' name) (fun _ => Content.Houses.tame)
    fun found _ => ?_
  refine .guard (fun _ => Content.Houses.tame) fun _ => ?_
  have inserts : Endures volume excused (Content.Houses volume.geometry accepted parentNumber)
      (volume.insertInode (.new name kind))
      (fun _ => Content.Houses volume.geometry accepted parentNumber) (volume.tame accepted) :=
    (insertInode_endures (.of_lt (show (0 : UInt64).toNat < Limit.buffer by decide))).weaken
      (fun _ => id) (fun _ _ => id) fun _ => Content.Houses.tame
  refine inserts.bind fun number => ?_
  refine .through (volume.tame accepted) ?_ fun _ => .pure fun _ => id
  refine (appendEntry_endures excuses lockable parentNumber name number).tryCatch fun error => ?_
  refine .through (volume.tame accepted) ?_ fun _ => .throw error _ fun _ => id
  exact (emptyInode_endures number).attempt (fun _ _ => id) fun _ _ => id

theorem remove_endures (path : String) :
    Endures volume excused (volume.tame accepted) (volume.remove path)
      (fun _ => volume.tame accepted) (volume.tame accepted) := by
  have uncounted : Uncounted volume.geometry (volume.tame accepted) :=
    Content.Tame.ofRecords.uncounted
  rw [remove]
  refine .through (volume.tame accepted) (.except (fun _ _ _ => id) fun _ => id) fun place => ?_
  obtain ⟨parents, name⟩ := place
  refine .withDirectoryLock .exclusive ?_ (fun _ => id) uncounted (fun _ => uncounted) uncounted
  refine (Endures.query (walkFromRoot_bears excuses path parents) fun _ => id).bind fun node => ?_
  obtain ⟨parent, parentNumber⟩ := node
  dsimp only
  refine .guard (fun _ known => known.1) fun isDirectory => ?_
  refine .given (fun _ known => known.1 parentNumber parent known.2) fun tame => ?_
  refine .forget (fun _ known => known.1) ?_
  refine .asking (readListing_bears excuses _ tame (by simpa using isDirectory)) (fun _ => id)
    fun listing listed => ?_
  split
  · exact .throw _ _ fun _ => id
  · next slot _ =>
    refine .through (volume.tame accepted) (.except (fun _ _ _ => id) fun _ => id) fun entry => ?_
    refine .guard (fun _ => id) fun _ => ?_
    refine .asking (getInode_bears _ _).plain (fun _ => id) fun target _ => ?_
    refine .guard (fun _ => id) fun _ => ?_
    refine .optional (freeChain_endures Content.Tame.ofRecords _) ?_
    refine .through (volume.tame accepted) (emptyInode_endures _) fun _ => ?_
    have writes : ∀ offset bytes, Endures volume excused (volume.tame accepted)
        (volume.writeChain listing.chain offset bytes) (fun _ => volume.tame accepted)
        (volume.tame accepted) := fun offset bytes =>
      writeChain_endures Content.Tame.ofRecords offset bytes listed.chained.isData
    refine .optional (writes _ _) ?_
    refine .through (volume.tame accepted) (writes _ _) fun _ => ?_
    refine (shrinkChain_endures Content.Tame.ofRecords _ _).bind fun result => ?_
    refine .forget (fun _ known => known.1) ?_
    refine .through (volume.tame accepted) (.except (fun _ _ _ => id) fun _ => id) fun _ => ?_
    refine putInode_tame parentNumber (.of_lt ?_)
    exact Nat.lt_of_le_of_lt (Nat.mod_le _ _) (Nat.lt_of_le_of_lt (Nat.sub_le _ _) listed.small)

end Excuses

end Volume

end ImageFs
