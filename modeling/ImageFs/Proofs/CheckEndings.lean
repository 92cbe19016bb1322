import ImageFs.Proofs.Breakdowns
import ImageFs.Proofs.Bystanders
import ImageFs.Proofs.LockRounds

/-!
How a check ends, whatever the bytes of the file. Main statement: it gives a report and leaves the file
as it is, but for three kinds of damage. A counter of holders at its end makes it fail, a directory that
declares more bytes than a buffer can hold breaks it down, and so does, unless counters wrap, an inode
with more links than can be counted.
-/

namespace ImageFs

/-! Damage that a change of the counter does not touch -/

namespace Content

variable {geometry : Geometry} {content content' : Content}

theorem inode_of_disk (same : Disk.of geometry content = Disk.of geometry content') {number : Nat}
    (inside : number < geometry.inodeCount) :
    content.inode geometry number = content'.inode geometry number := by
  have record := congrFun (congrArg Disk.record same) number
  simp only [Disk.of, if_pos inside] at record
  rw [inode, inode, slot, slot, record]

theorem Vast.of_disk (same : Disk.of geometry content = Disk.of geometry content')
    {number : Nat} (vast : content.Vast geometry number) : content'.Vast geometry number := by
  obtain ⟨⟨⟨inside, nonempty⟩, isDirectory⟩, whole, chained, large⟩ := vast
  rw [inode_of_disk same inside] at nonempty isDirectory whole chained large
  rw [chain?_of_disk same] at chained
  exact ⟨⟨⟨inside, nonempty⟩, isDirectory⟩, whole, chained, large⟩

end Content

namespace Volume

open LockProtocol

variable {volume : Volume} {content : Content} {overflow : Check.Overflow}

theorem read_header_counted (count : Nat) :
    (counted volume.alone content count).read 0 Superblock.length =
      content.read 0 Superblock.length := by
  have minimum := volume.geometry.minimum
  have start := volume.geometry.two_le_dataStart
  have room := Nat.mul_le_mul_right volume.geometry.blockSize start
  have isLength : Superblock.length = 80 := rfl
  apply Content.read_write_of_apart content
  left
  change 0 + Superblock.length ≤ volume.geometry.dataStart * volume.geometry.blockSize
  omega

theorem read_header_entered : (content.entered volume.geometry).read 0 Superblock.length =
    content.read 0 Superblock.length :=
  read_header_counted _

/-- Where counters wrap, a directory that is too large breaks the check down. -/
theorem ending_of_vast {superblock : Superblock} {number : Nat} {ending : Except Halt CheckReport}
    (readable : Superblock.parse (content.read 0 Superblock.length) = .ok superblock)
    (vast : content.Vast volume.geometry number)
    (ends : (content.entered volume.geometry).CheckEnding volume.geometry .wraps ending) :
    ∃ size, ending = .error (.crashed (.oversizedBuffer size)) := by
  cases ends with
  | vast readable' vast' => exact ⟨_, rfl⟩
  | crowded readable' breaks many => cases breaks
  | report fits report =>
      rw [← read_header_entered] at readable
      exact absurd (vast.of_disk (Disk.of_write_holders content).symm) ((fits _ readable).1 _)

theorem check_eq : volume.check overflow =
    (volume.alone.lock ()).hold .exclusive (volume.checkUnlocked overflow : Update CheckReport) :=
  @withDirectoryLock_eq _ _ volume.alone () .exclusive _

section Alone

variable (lockable : volume.geometry.imageLength ≤ Limit.hostOffset)
  (long : volume.geometry.imageLength ≤ content.size)

include lockable long

theorem check_full (full : Limit.word64 ≤ content.holders volume.geometry + 1) :
    volume.check overflow ⟨content, []⟩ =
      (.error (.failed (.corrupt volume.geometry.anchorBlock .tooManyHolders)), ⟨content, []⟩) := by
  have anchored : Anchored volume.alone [] := fun _ member => by cases member
  rw [check_eq]
  exact Update.bind_error (@acquire_full _ volume.alone () _ _ _ lockable long anchored full)

theorem check_ends (bound : content.holders volume.geometry + 1 < Limit.word64) :
    ∃ ending, (content.entered volume.geometry).CheckEnding volume.geometry overflow ending ∧
      volume.check overflow ⟨content, []⟩ = (ending, ⟨content, []⟩) := by
  have anchored : Anchored volume.alone [] := fun _ member => by cases member
  have without : Without volume.alone [] () := fun _ member => by cases member
  have free : conflicted volume.alone [] () .exclusive = false := rfl
  have long' : volume.geometry.imageLength ≤ (content.entered volume.geometry).size :=
    (@size_counted _ volume.alone _ long _).symm ▸ long
  obtain ⟨ending, ends, answered⟩ := @checkUnlocked_ending volume
    ⟨content.entered volume.geometry, [volume.alone.held () .exclusive]⟩ overflow long'
  rw [check_eq]
  exact ⟨ending, ends, @hold_ask _ _ volume.alone () content [] .exclusive lockable long anchored
    without (volume.checkUnlocked overflow) ending bound free ends.ne_blocked answered⟩

end Alone

end Volume

namespace Image

variable {image : Image} {backing : Backing} {overflow : Check.Overflow}

/-- Whatever the bytes of the file, and whatever locks others have that do not stand in the way: a
check fails when the counter of holders is at its end, breaks down when it meets a directory that is
too large for a buffer or an inode with too many links for its counters, unless those wrap, and gives
a report otherwise. It judges the file with itself counted in, and leaves it as before. -/
theorem check_ending (lockable : image.volume.geometry.imageLength ≤ Limit.hostOffset)
    (long : image.volume.geometry.imageLength ≤ backing.content.size)
    (clear : image.volume.directoryLock.Clear backing.locks) :
    (Limit.word64 ≤ backing.content.holders image.volume.geometry + 1 →
      image.volume.check overflow backing = (.error (.failed
        (.corrupt image.volume.geometry.anchorBlock .tooManyHolders)), backing)) ∧
    (backing.content.holders image.volume.geometry + 1 < Limit.word64 →
      ∃ ending, (backing.content.entered image.volume.geometry).CheckEnding image.volume.geometry
          overflow ending ∧
        image.volume.check overflow backing = (ending, backing)) := by
  obtain ⟨content, others⟩ := backing
  have beside : image.volume.check overflow ⟨content, others⟩ =
      ((image.volume.check overflow ⟨content, []⟩).1,
        (image.volume.check overflow ⟨content, []⟩).2.beside others) :=
    Volume.withDirectoryLock_beside clear .exclusive
      (.ask Volume.checkUnlocked_blind) ⟨content, []⟩
  rw [beside]
  constructor
  · intro full
    rw [Volume.check_full lockable long full]
    rfl
  · intro bound
    obtain ⟨ending, ends, checks⟩ := @Volume.check_ends _ content overflow lockable long bound
    rw [checks]
    exact ⟨ending, ends, rfl⟩

/-! Both kinds of damage -/

/-- A new image, but that its counter of holders is at its end. -/
theorem exists_fullContent : ∃ content : Content,
    Session.smallest.imageLength ≤ content.size ∧
      Limit.word64 ≤ content.holders Session.smallest + 1 ∧
      ofDevice "image" (Session.smallest.volume 0).device ⟨content, []⟩ =
        .ok ⟨Session.smallest.volume 0, .empty⟩ := by
  have order := (@Session.new_reachable Session.smallest (by decide)).1.inOrder
  let volume := Session.smallest.volume 0
  let content := LockProtocol.counted volume.alone
    (Session.new Session.smallest).backing.content (Limit.word64 - 1)
  have size : content.size = (Session.new Session.smallest).backing.content.size :=
    @LockProtocol.size_counted _ volume.alone _ order.rest.long _
  have holders : content.holders Session.smallest = Limit.word64 - 1 :=
    @LockProtocol.holders_counted _ volume.alone _ _ (by decide)
  have long : Session.smallest.imageLength ≤ content.size := size ▸ order.rest.long
  have header : 0 + Superblock.length ≤ volume.geometry.imageLength := by decide
  have reads := (@Device.read_decides volume ⟨content, []⟩ _ _ long header).answers
    (Device.read_judges _ _ _ _)
  have reads' := (@Device.read_decides volume (Session.new Session.smallest).backing _ _
    order.rest.long header).answers (Device.read_judges _ _ _ _)
  refine ⟨content, long, by rw [holders]; decide, ?_⟩
  rw [← order.ofDevice_apply "image" 0]
  apply ofDevice_congr
  exact reads.trans ((congrArg _ (Volume.read_header_counted _)).trans reads'.symm)

theorem exists_superblock {path : String} {device : Device} (opens :
    ofDevice path device backing = .ok image) : ∃ superblock,
      Superblock.parse (backing.content.read 0 Superblock.length) = .ok superblock := by
  rw [ofDevice] at opens
  split at opens
  · cases opens
  · obtain ⟨region, read, opens⟩ := Query.exists_of_bind_ok opens
    obtain ⟨superblock, parsed, -⟩ := Query.exists_of_bind_ok opens
    rw [← Option.some.inj ((device.read_judges _ _ backing).value read)] at parsed
    cases parse : Superblock.parse (backing.content.read 0 Superblock.length) with
    | ok superblock' => exact ⟨superblock', rfl⟩
    | error error =>
        rw [parse] at parsed
        cases parsed

theorem vastContent_vast : vastContent.Vast Session.smallest InodeNumber.root := by
  obtain ⟨-, -, stores, -⟩ := vastContent_facts
  have isInode : vastContent.inode Session.smallest InodeNumber.root = vastRoot := by
    rw [Content.inode, stores.found]
    rfl
  refine ⟨⟨⟨stores.inside, ?_⟩, ?_⟩, ?_⟩
  · rw [isInode]
    rfl
  · rw [isInode]
    rfl
  · rw [isInode]
    exact ⟨by decide, rfl, by decide⟩

/-- Both kinds of damage are in files that can be opened. -/
theorem check_fails :
    (∃ content image,
      ofDevice "image" (Session.smallest.volume 0).device ⟨content, []⟩ = .ok image ∧
      ∀ overflow, image.volume.check overflow ⟨content, []⟩ = (.error (.failed
        (.corrupt Session.smallest.anchorBlock .tooManyHolders)), ⟨content, []⟩)) ∧
    ∃ image, ofDevice "image" (Session.smallest.volume 0).device ⟨vastContent, []⟩ = .ok image ∧
      ∃ size, image.volume.check .wraps ⟨vastContent, []⟩ =
        (.error (.crashed (.oversizedBuffer size)), ⟨vastContent, []⟩) := by
  have clear : (Session.smallest.volume 0).directoryLock.Clear [] := .nil
  have lockable : (Session.smallest.volume 0).geometry.imageLength ≤ Limit.hostOffset := by decide
  constructor
  · obtain ⟨content, long, full, opens⟩ := exists_fullContent
    exact ⟨content, _, opens, fun overflow => (@check_ending ⟨Session.smallest.volume 0, .empty⟩
      ⟨content, []⟩ overflow lockable long clear).1 full⟩
  · obtain ⟨rest, -, -, opens⟩ := vastContent_facts
    obtain ⟨superblock, readable⟩ := exists_superblock opens
    have counts : vastContent.holders Session.smallest + 1 < Limit.word64 := by
      have none : vastContent.holders Session.smallest = 0 := rest.holders
      rw [none]
      decide
    obtain ⟨ending, ends, checks⟩ := (@check_ending ⟨Session.smallest.volume 0, .empty⟩
      ⟨vastContent, []⟩ .wraps lockable rest.long clear).2 counts
    obtain ⟨size, rfl⟩ := @Volume.ending_of_vast (Session.smallest.volume 0) vastContent _ _ _
      readable vastContent_vast ends
    exact ⟨_, opens, size, checks⟩

end Image

end ImageFs
