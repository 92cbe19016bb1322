import ImageFs.Proofs.Reachability
import ImageFs.Proofs.Relabels
import ImageFs.Proofs.Reports
import ImageFs.Proofs.Rows

/-!
Damage that the check does not see. Main statements: the check of a file at rest judges the bytes with
one holder counted, whatever they are; a new image whose root has become a file, and one in which the
root and a directory have exchanged their contents, open and are reported without findings.
-/

namespace ImageFs

/-! The check of a file at rest -/

namespace Content

variable {content : Content} {geometry : Geometry}

/-- The file while one party holds the lock on the directory tree. -/
def occupied (geometry : Geometry) (content : Content) : Content :=
  content.write (geometry.anchorBlock * geometry.blockSize) (.ofNat 8 1)

theorem disk_occupied : Disk.of geometry (content.occupied geometry) = Disk.of geometry content :=
  Disk.of_write_holders content

theorem slot_occupied {number : Nat} (inside : number < geometry.inodeCount) :
    (content.occupied geometry).slot geometry number = content.slot geometry number := by
  have records := congrFun (congrArg Disk.record (@disk_occupied content geometry)) number
  simp only [Disk.of, if_pos inside] at records
  rw [slot, slot, records]

theorem inode_occupied {number : Nat} (inside : number < geometry.inodeCount) :
    (content.occupied geometry).inode geometry number = content.inode geometry number := by
  rw [inode, inode, slot_occupied inside]

theorem occupied_putRecord {number : Nat} {inode : Inode} (inside : number < geometry.inodeCount)
    (fits : NameFits inode.name) :
    (content.putRecord geometry number inode).occupied geometry =
      (content.occupied geometry).putRecord geometry number inode := by
  have before := Area.record_end_le geometry inside
  have length := Inode.length_record fits
  refine content.write_comm (.inl ?_)
  rw [length]
  exact before

theorem live_occupied {number : Nat} :
    (content.occupied geometry).Live geometry number ↔ content.Live geometry number := by
  constructor <;> rintro ⟨inside, nonempty⟩ <;> refine ⟨inside, ?_⟩
  · rwa [inode_occupied inside] at nonempty
  · rwa [inode_occupied inside]

theorem directory_occupied {number : Nat} :
    (content.occupied geometry).Directory geometry number ↔ content.Directory geometry number := by
  constructor <;> rintro ⟨live, isDirectory⟩
  · refine ⟨live_occupied.mp live, ?_⟩
    rwa [inode_occupied live.inside] at isDirectory
  · refine ⟨live_occupied.mpr live, ?_⟩
    rwa [inode_occupied live.inside]

theorem size_occupied (long : geometry.imageLength ≤ content.size) :
    (content.occupied geometry).size = content.size := by
  have inside := @Area.stop_le_imageLength geometry .holders trivial
  refine content.size_write_of_fits ?_
  rw [Bytes.length_ofNat]
  exact Nat.le_trans inside long

theorem holders_occupied : (content.occupied geometry).holders geometry = 1 :=
  Disk.holders_write content (by decide)

end Content

namespace Volume

variable {volume : Volume} {backing : Backing}

theorem AtRest.acquire (rest : volume.AtRest backing) (kind : LockKind) :
    volume.directoryLock.acquire kind backing =
      (.ok (), ⟨backing.content.occupied volume.geometry,
        [DirectoryLock.held volume volume.directoryLock.anchor kind]⟩) := by
  obtain ⟨content, acquired, size, shows, counts⟩ :=
    DirectoryLock.acquire_of_atRest rest rfl kind
  have same : content = backing.content.occupied volume.geometry := by
    refine @Disk.content_eq volume.geometry _ _ ?_ ?_ ?_
    · rw [size, Content.size_occupied rest.long]
    · rw [counts, Content.holders_occupied]
    · rw [shows, Content.disk_occupied]
  rw [acquired, same]

/-- A file at rest is checked as it stands with one holder counted. -/
theorem AtRest.check_sound_iff {overflow : Check.Overflow} (rest : volume.AtRest backing)
    (bounded : overflow = .wraps → volume.geometry.inodeCount < Limit.word32)
    (small : ∀ directory, backing.content.Directory volume.geometry directory →
      (backing.content.inode volume.geometry directory).size.toNat < Limit.buffer)
    (few : overflow = .breaks → ∀ number, (backing.content.occupied volume.geometry).linkCount
      volume.geometry number < Limit.word32) :
    ∃ report after, volume.check overflow backing = (.ok report, after) ∧
      (report.findings = [] ↔ (backing.content.occupied volume.geometry).Sound volume.geometry) := by
  let anchorLock := DirectoryLock.held volume volume.directoryLock.anchor .exclusive
  let during : Backing := ⟨backing.content.occupied volume.geometry, [anchorLock]⟩
  have long : volume.geometry.imageLength ≤ during.content.size :=
    (Content.size_occupied rest.long).symm ▸ rest.long
  obtain ⟨report, answered⟩ := @checkUnlocked_ends volume during overflow long
    (fun directory vast => by
      have large := vast.oversized.large
      rw [Content.inode_occupied vast.directory.live.inside] at large
      exact Nat.not_le.mpr (small directory (Content.directory_occupied.mp vast.directory)) large)
    few
  obtain ⟨content, released, -⟩ := @DirectoryLock.release_of_within volume _ 0 during .exclusive
    ⟨long, rest.lockable, DirectoryLock.own_anchor .exclusive fun _ member => by cases member⟩
    (.refl _) rfl Content.holders_occupied
  refine ⟨report, ⟨content, []⟩, ?_, checkUnlocked_sound_iff bounded answered⟩
  rw [Volume.check, withDirectoryLock, volume.directoryLock_of_volume]
  change volume.directoryLock.hold .exclusive (volume.checkUnlocked overflow) backing = _
  rw [DirectoryLock.hold, Update.bind_ok (rest.acquire .exclusive), Update.ensuring,
    Update.lift_apply, answered]
  dsimp only
  rw [released]

end Volume

/-! Damaged images that pass -/

/-- The file opens as the image and is reported without findings, the check judging the bytes that stand
during it. -/
structure Image.Passes (image : Image) (backing during : Backing) : Prop where
  opens : Image.ofDevice "image" image.volume.device backing = .ok image
  checks : ∃ report image' after,
    image.perform .check backing = (.ok (.report report), image', after) ∧ report.findings = []
  acquires : image.volume.directoryLock.acquire .exclusive backing = (.ok (), during)

namespace Content

/-- The parts of a file that opening and locking read are the same. -/
structure SameFrame (geometry : Geometry) (first second : Content) : Prop where
  size : second.size = first.size
  holders : second.holders geometry = first.holders geometry
  header : second.read 0 Superblock.length = first.read 0 Superblock.length

theorem SameFrame.trans {geometry : Geometry} {first second third : Content}
    (earlier : SameFrame geometry first second) (later : SameFrame geometry second third) :
    SameFrame geometry first third where
  size := later.size.trans earlier.size
  holders := later.holders.trans earlier.holders
  header := later.header.trans earlier.header

theorem sameFrame_putRecord {geometry : Geometry} {content : Content} {number : Nat} {inode : Inode}
    (inside : number < geometry.inodeCount) (fits : NameFits inode.name)
    (long : geometry.imageLength ≤ content.size) :
    SameFrame geometry content (content.putRecord geometry number inode) where
  size := by
    have recordEnd := Area.record_end_le geometry inside
    have behind := geometry.data_start_le_imageLength
    refine content.size_write_of_fits ?_
    rw [Inode.length_record fits]
    exact Nat.le_trans recordEnd (Nat.le_trans behind long)
  holders := (agreeBut_putRecord inside fits).holders (by simp)
  header := (sameBesideSlots_putRecord inside fits).header

end Content

namespace Session

variable {geometry : Geometry} {session : Session}

/-- The inodes of a file in order are those of its tree. -/
theorem InOrder.exists_slot (order : session.InOrder geometry) : ∃ chain : Nat → List Nat,
    ∀ number, number < geometry.inodeCount →
      session.backing.content.slot geometry number =
          .ok ((session.tree geometry number).inode (chain number)) ∧
        NameFits (session.tree geometry number).name ∧
        ((session.tree geometry number).inode (chain number)).size.toNat < Limit.buffer := by
  obtain ⟨chain, represents⟩ := order.represents
  have stored := represents.stored
  refine ⟨chain, fun number inside => ⟨?_, stored.fits number, ?_⟩⟩
  · have record := stored.record number inside
    simp only [Session.disk, Disk.of, if_pos inside] at record
    rw [Content.slot, record, Inode.parse_record (stored.fits number)]
  · have lockable : geometry.imageLength ≤ Limit.hostOffset := stored.lockable
    have short := @Stored.stored_lt (geometry.volume 0) _ _ _ stored number
    rw [@Stored.size_toNat (geometry.volume 0) _ _ _ stored number]
    exact Nat.lt_of_lt_of_le short lockable

theorem InOrder.occupied_sound (order : session.InOrder geometry) :
    (session.backing.content.occupied geometry).Sound geometry := by
  obtain ⟨chain, represents⟩ := order.represents
  let during : Backing := ⟨session.backing.content.occupied geometry, []⟩
  have ready : (geometry.volume 0).Ready during :=
    ⟨(Content.size_occupied order.rest.long).symm ▸ order.rest.long, order.rest.lockable,
      fun _ member => by cases member⟩
  have answered := @Represents.check_answers (geometry.volume 0) _ _ chain .breaks represents during
    ready Content.disk_occupied
  have bounded : Check.Overflow.breaks = .wraps → geometry.inodeCount < Limit.word32 := nofun
  exact (@Volume.checkUnlocked_sound_iff (geometry.volume 0) _ _ .breaks bounded answered).mp rfl

section Frame

variable (order : session.InOrder geometry) {changed : Content}
  (frame : Content.SameFrame geometry session.backing.content changed)

include order frame

theorem InOrder.rest_of_frame : (geometry.volume 0).AtRest ⟨changed, []⟩ :=
  ⟨frame.size ▸ order.rest.long, order.rest.lockable, rfl, frame.holders.trans order.rest.holders⟩

theorem InOrder.opens_of_frame :
    Image.ofDevice "image" (geometry.volume 0).device ⟨changed, []⟩ =
      .ok ⟨geometry.volume 0, .empty⟩ := by
  have header : Superblock.length ≤ geometry.imageLength := by
    have minimum := geometry.minimum
    have behind := geometry.data_start_le_imageLength
    have bitmapEnd := geometry.bitmap_le
    have table := geometry.firstInode_le_dataStart
    have start : geometry.bitmapOffset = geometry.blockSize := rfl
    have isLength : Superblock.length = 80 := rfl
    omega
  have reads : (geometry.volume 0).device.read 0 Superblock.length ⟨changed, []⟩ =
      (geometry.volume 0).device.read 0 Superblock.length session.backing := by
    have inside : 0 + Superblock.length ≤ (geometry.volume 0).geometry.imageLength := by
      rw [Nat.zero_add]
      exact header
    rw [Volume.read_apply _ (order.rest_of_frame frame).ready inside,
      Volume.read_apply _ order.rest.ready inside, frame.header]
  exact (Image.ofDevice_congr reads).trans (order.ofDevice_apply "image" 0)

/-- A file in order, with other inodes in place, passes the check if it is sound. -/
theorem InOrder.passes (sound : (changed.occupied geometry).Sound geometry)
    (small : ∀ directory, changed.Directory geometry directory →
      (changed.inode geometry directory).size.toNat < Limit.buffer) :
    ∃ locks, Image.Passes ⟨geometry.volume 0, .empty⟩ ⟨changed, []⟩
      ⟨changed.occupied geometry, locks⟩ := by
  have rest := order.rest_of_frame frame
  obtain ⟨report, after, checked, clean⟩ := @Volume.AtRest.check_sound_iff (geometry.volume 0) _
    .breaks rest nofun small fun _ number =>
      Nat.lt_of_le_of_lt (sound.linkCount_le_one number) (by decide)
  exact ⟨_, order.opens_of_frame frame,
    ⟨report, _, after, Image.perform_check_of_ok checked, clean.mpr sound⟩, rest.acquire .exclusive⟩

end Frame

/-- A directory in a file in order has a name that fits and a size that a buffer can hold. -/
theorem InOrder.bounded (order : session.InOrder geometry) {number : Nat}
    (live : session.backing.content.Live geometry number) :
    NameFits (session.backing.content.inode geometry number).name ∧
      (session.backing.content.inode geometry number).size.toNat < Limit.buffer := by
  obtain ⟨chain, slots⟩ := order.exists_slot
  obtain ⟨slot, fits, small⟩ := slots number live.inside
  rw [Content.inode, slot]
  exact ⟨fits, small⟩

theorem InOrder.passes_demote (order : session.InOrder geometry) {directory : Nat}
    (isDirectory : session.backing.content.Directory geometry directory)
    (empty : (session.backing.content.inode geometry directory).size = 0) :
    ∃ locks, Image.Passes ⟨geometry.volume 0, .empty⟩
        ⟨session.backing.content.demote geometry directory, []⟩
        ⟨(session.backing.content.demote geometry directory).occupied geometry, locks⟩ ∧
      ¬ ((session.backing.content.demote geometry directory).occupied geometry).Directory geometry
        directory := by
  have fits := (order.bounded isDirectory.live).1
  have inside := isDirectory.live.inside
  have put : NameFits (session.backing.content.inode geometry directory).asFile.name := by
    rwa [Inode.name_asFile]
  have kept (number : Nat) := Content.directory_demote isDirectory fits number
  have during : (session.backing.content.demote geometry directory).occupied geometry =
      (session.backing.content.occupied geometry).demote geometry directory := by
    rw [Content.demote, Content.demote, Content.inode_occupied inside,
      Content.occupied_putRecord inside put]
  have sound : ((session.backing.content.demote geometry directory).occupied geometry).Sound
      geometry := by
    obtain ⟨chain, sound⟩ := order.occupied_sound
    rw [← Content.inode_occupied inside] at fits empty
    rw [during]
    exact ⟨_, (Content.relabels_demote (Content.directory_occupied.mpr isDirectory) fits
      empty).sound sound⟩
  have small (number : Nat)
      (isDirectory' : (session.backing.content.demote geometry directory).Directory geometry number) :
      ((session.backing.content.demote geometry directory).inode geometry number).size.toNat <
        Limit.buffer := by
    obtain ⟨isDirectory'', different⟩ := (kept number).mp isDirectory'
    rw [Content.inode_demote isDirectory fits isDirectory''.live.inside, if_neg different]
    exact (order.bounded isDirectory''.live).2
  obtain ⟨locks, passes⟩ := order.passes
    (Content.sameFrame_putRecord inside put order.rest.long) sound small
  exact ⟨locks, passes, fun isDirectory' =>
    ((kept directory).mp (Content.directory_occupied.mp isDirectory')).2 rfl⟩

/-- Once an empty directory and another one have exchanged their contents, nothing leads from the other
one to any other inode. -/
theorem InOrder.passes_exchange (order : session.InOrder geometry) {one other : Nat}
    (isDirectory : session.backing.content.Directory geometry one)
    (isDirectory' : session.backing.content.Directory geometry other)
    (notAnchor : one ≠ InodeNumber.anchor) (notAnchor' : other ≠ InodeNumber.anchor)
    (empty : (session.backing.content.inode geometry other).size = 0) :
    let during := (session.backing.content.exchange geometry one other).occupied geometry
    ∃ locks, Image.Passes ⟨geometry.volume 0, .empty⟩
        ⟨session.backing.content.exchange geometry one other, []⟩ ⟨during, locks⟩ ∧
      during.Directory geometry one ∧ during.Live geometry other ∧
      ∀ trail number, during.follow geometry one trail = some number → number = one := by
  intro during
  have fits := (order.bounded isDirectory.live).1
  have fits' := (order.bounded isDirectory'.live).1
  have inside := isDirectory.live.inside
  have inside' := isDirectory'.live.inside
  have put : NameFits ((session.backing.content.inode geometry one).holding
      (session.backing.content.inode geometry other)).name := by
    rw [Inode.name_holding]
    exact fits
  have put' : NameFits ((session.backing.content.inode geometry other).holding
      (session.backing.content.inode geometry one)).name := by
    rw [Inode.name_holding]
    exact fits'
  have isDuring : during = (session.backing.content.occupied geometry).exchange geometry one other := by
    rw [Content.exchange, Content.inode_occupied inside, Content.inode_occupied inside',
      ← Content.occupied_putRecord inside put, ← Content.occupied_putRecord inside' put']
    rfl
  have frame : Content.SameFrame geometry session.backing.content
      (session.backing.content.exchange geometry one other) := by
    have first := Content.sameFrame_putRecord inside put order.rest.long
    refine first.trans (Content.sameFrame_putRecord inside' put' ?_)
    rw [first.size]
    exact order.rest.long
  have small (number : Nat) (isDirectory'' :
      (session.backing.content.exchange geometry one other).Directory geometry number) :
      ((session.backing.content.exchange geometry one other).inode geometry number).size.toNat <
        Limit.buffer := by
    have relabels := Content.relabels_exchange isDirectory isDirectory' fits fits' notAnchor notAnchor'
    have live := (relabels.live number).mp isDirectory''.live
    rw [relabels.size number live]
    exact (order.bounded (relabels.sourceLive number live)).2
  obtain ⟨chain, sound⟩ := order.occupied_sound
  have occupied := Content.directory_occupied.mpr isDirectory
  have occupied' := Content.directory_occupied.mpr isDirectory'
  rw [← Content.inode_occupied inside] at fits
  rw [← Content.inode_occupied inside'] at fits' empty
  have relabels := Content.relabels_exchange occupied occupied' fits fits' notAnchor notAnchor'
  rw [← isDuring] at relabels
  have sound' := relabels.sound sound
  obtain ⟨locks, passes⟩ := order.passes frame ⟨_, sound'⟩ small
  have stays : during.Directory geometry one := by
    rw [isDuring]
    exact (Content.directory_exchange occupied occupied' fits fits' one).mpr occupied
  refine ⟨locks, passes, stays, (relabels.live other).mpr occupied'.live, fun trail number leads => ?_⟩
  cases trail with
  | nil => exact (Option.some.inj leads).symm
  | cons slot rest =>
      have listed : during.listed geometry one = [] := by
        rw [sound'.listed_eq_entries stays, relabels.entries_eq sound.chains occupied.live,
          Equiv.swap_apply_left, Content.entries, empty]
        rfl
      rw [Content.follow, Trail.follow, Content.child?, if_pos stays, listed] at leads
      cases leads

theorem InOrder.directory_of_tree (order : session.InOrder geometry) {number : Nat}
    {children : List Child} (inside : number < geometry.inodeCount)
    (body : (session.tree geometry number).body = .directory children) :
    session.backing.content.Directory geometry number ∧
      (children = [] → (session.backing.content.inode geometry number).size = 0) := by
  obtain ⟨chain, slots⟩ := order.exists_slot
  have isInode : session.backing.content.inode geometry number =
      (session.tree geometry number).inode (chain number) := by
    rw [Content.inode, (slots number inside).1]
    rfl
  refine ⟨⟨⟨inside, ?_⟩, ?_⟩, fun none => ?_⟩
  · rw [isInode, Node.isEmpty_inode, decide_eq_true (Node.isLive_of_directory body)]
    rfl
  · rw [isInode, Node.isDirectory_inode, Node.children_of_directory body, body]
    exact decide_eq_true rfl
  · rw [isInode, Node.inode, Node.stored, body, none]
    rfl

/-- A new image whose root has become a file. -/
def rootAsFile : Backing :=
  ⟨(new smallest).backing.content.demote smallest InodeNumber.root, []⟩

/-- An image in which the root and the one directory below it have exchanged their contents. -/
def detachedDirectory : Backing :=
  ⟨((new smallest).run [(0, .create "/a" .directory)]).backing.content.exchange smallest
    InodeNumber.root 2, []⟩

theorem rootAsFile_passes : ∃ during, Image.Passes ⟨smallest.volume 0, .empty⟩ rootAsFile during ∧
    ¬ during.content.Directory smallest InodeNumber.root := by
  obtain ⟨owner, stands⟩ := @new_stands smallest [0, 1] (by decide) (by decide)
  have order := stands.reachable.inOrder
  have body : ((new smallest).tree smallest InodeNumber.root).body = .directory [] := by
    rw [stands.isTree]
    rfl
  obtain ⟨isDirectory, empty⟩ := order.directory_of_tree (by decide) body
  obtain ⟨locks, passes, lost⟩ := order.passes_demote isDirectory (empty rfl)
  exact ⟨_, passes, lost⟩

theorem detachedDirectory_passes :
    ∃ during, Image.Passes ⟨smallest.volume 0, .empty⟩ detachedDirectory during ∧
      during.content.Directory smallest InodeNumber.root ∧ during.content.Live smallest 2 ∧
      ∀ trail, during.content.follow smallest InodeNumber.root trail ≠ some 2 := by
  obtain ⟨owner, stands⟩ := @new_stands smallest [0, 1] (by decide) (by decide)
  have split : Path.splitLast "/a" = .ok ([], "a") := by decide +kernel
  obtain ⟨first, performs, stands⟩ := @Stands.create _ _ _ _ _ stands _ .directory _ _ _ _ _
    split rfl rfl rfl (by decide) (by decide)
  have isFirst : (new smallest).run [(0, .create "/a" .directory)] = first := by
    rw [run_of_performs performs]
    rfl
  have order := stands.reachable.inOrder
  have root : (first.tree smallest InodeNumber.root).body = .directory [⟨"a", 2⟩] := by
    rw [stands.isTree]
    rfl
  have below : (first.tree smallest 2).body = .directory [] := by
    rw [stands.isTree]
    rfl
  obtain ⟨isDirectory, -⟩ := order.directory_of_tree (by decide) root
  obtain ⟨isDirectory', empty⟩ := order.directory_of_tree (by decide) below
  obtain ⟨locks, passes, stays, live, alone⟩ :=
    order.passes_exchange isDirectory isDirectory' (by decide) (by decide) (empty rfl)
  rw [detachedDirectory, isFirst]
  exact ⟨_, passes, stays, live, fun trail leads => by cases alone trail 2 leads⟩

/-- The check has no findings on either image, although the one has no root directory and the other a
directory that nothing leads to. -/
theorem check_misses_detached :
    let image : Image := ⟨smallest.volume 0, .empty⟩
    (∃ during, image.Passes rootAsFile during ∧
      ¬ during.content.Directory smallest InodeNumber.root) ∧
    ∃ during, image.Passes detachedDirectory during ∧
      during.content.Directory smallest InodeNumber.root ∧ during.content.Live smallest 2 ∧
      ∀ trail, during.content.follow smallest InodeNumber.root trail ≠ some 2 :=
  ⟨rootAsFile_passes, detachedDirectory_passes⟩

end Session

end ImageFs
