import ImageFs.Proofs.Relabels
import ImageFs.Proofs.Reports
import ImageFs.Proofs.RoundTrip

/-!
The inode table under calls that fill its slots and empty them, in any order and whatever becomes of
each. Main statement: after any number of such calls on a new image the cursor is the lowest empty
slot. An insertion takes that slot; it fails when there is none or when the name is too long. Emptying
fails for the first two slots and outside the table. A call that fails changes nothing, and the
generation of a slot counts how often it has been emptied.
-/

namespace ImageFs

variable {geometry : Geometry}

/-! Slots -/

namespace Content

variable {content before middle after : Content} {number next : Nat} {inode : Inode}

/-- The cursor of the inode table. -/
def slotCursor (content : Content) (geometry : Geometry) : Nat :=
  (content.area geometry (.counter .nextFreeInode)).toNat

theorem live_of_slot (inside : number < geometry.inodeCount)
    (isSlot : content.slot geometry number = .ok inode) :
    content.Live geometry number ↔ inode.kind ≠ .empty := by
  have isInode : content.inode geometry number = inode := by
    unfold Content.inode
    rw [isSlot]
    rfl
  constructor
  · intro live
    have nonempty := live.nonempty
    rw [isInode] at nonempty
    simpa [Inode.isEmpty] using nonempty
  · intro nonempty
    refine ⟨inside, ?_⟩
    rw [isInode]
    simpa [Inode.isEmpty] using nonempty

/-- The lowest empty slot from `first` to before `stop`, or zero when there is none. -/
structure LowestVacant (content : Content) (geometry : Geometry) (first stop found : Nat) :
    Prop where
  below : ∀ number, first ≤ number → number < stop → (found = 0 ∨ number < found) →
    content.Live geometry number
  vacant : found ≠ 0 → first ≤ found ∧ found < stop ∧ ¬ content.Live geometry found

namespace LowestVacant

variable {first stop found : Nat}

theorem nowhere (content : Content) (geometry : Geometry) (first : Nat) :
    content.LowestVacant geometry first first 0 where
  below _ behind inside _ := absurd inside (Nat.not_lt.mpr behind)
  vacant some := absurd rfl some

theorem here (positive : 0 < first) (inside : first < stop)
    (vacant : ¬ content.Live geometry first) :
    content.LowestVacant geometry first stop first where
  below _ behind _ lower := by omega
  vacant _ := ⟨Nat.le_refl first, inside, vacant⟩

theorem onward (live : content.Live geometry first)
    (lowest : content.LowestVacant geometry (first + 1) stop found) :
    content.LowestVacant geometry first stop found where
  below number behind inside lower := by
    rcases Nat.eq_or_lt_of_le behind with same | behind
    · rw [← same]
      exact live
    · exact lowest.below number behind inside lower
  vacant some := by
    obtain ⟨behind, inside, vacant⟩ := lowest.vacant some
    exact ⟨Nat.le_of_succ_le behind, inside, vacant⟩

variable (lowest : before.LowestVacant geometry first stop found)

include lowest

theorem congr (same : ∀ number, first ≤ number →
    (after.Live geometry number ↔ before.Live geometry number)) :
    after.LowestVacant geometry first stop found where
  below number behind inside lower :=
    (same number behind).mpr (lowest.below number behind inside lower)
  vacant some := by
    obtain ⟨behind, inside, vacant⟩ := lowest.vacant some
    exact ⟨behind, inside, fun live => vacant ((same found behind).mp live)⟩

theorem le_stop : found ≤ stop := by
  by_cases none : found = 0
  · omega
  · have facts := lowest.vacant none
    omega

end LowestVacant

/-! Changing one slot -/

/-- A slot holds the inode afterwards, and of the other areas none has changed but the cursor. -/
structure Filled (geometry : Geometry) (before after : Content) (number : Nat) (inode : Inode)
    (cursor : Nat) : Prop where
  size : after.size = before.size
  slot : after.slot geometry number = .ok inode
  cursor : after.slotCursor geometry = cursor
  others : ∀ area : Area, area.Valid geometry → area ≠ .record number →
    area ≠ .counter .nextFreeInode → after.area geometry area = before.area geometry area

namespace Filled

/-- Storing a record. -/
theorem of_record {record : Bytes} (long : geometry.imageLength ≤ content.size)
    (inside : number < geometry.inodeCount) (encoded : inode.encode = .ok record) :
    Filled geometry content (content.write (Area.first geometry (.record number)) record) number
      { inode with name := Field.nameText (record.take Inode.nameWidth) }
      (content.slotCursor geometry) := by
  have length : record.length = recordLength := Inode.length_encode encoded
  have stop := Area.stop_le_imageLength (.record number) inside
  have agree := Disk.agreeBut_write (.record number) inside content (Nat.le_refl _)
    (Nat.add_le_add_left (Nat.le_of_eq length) _)
  constructor
  · apply Content.size_write_of_fits
    rw [length]
    exact Nat.le_trans stop long
  · exact slot_write encoded
  · unfold slotCursor
    rw [agree.area (.counter .nextFreeInode) trivial (by simp)]
  · intro area valid different _
    exact agree.area area valid different

variable {cursor : Nat} (filled : Filled geometry before after number inode cursor)

include filled

theorem slot_of_ne {other : Nat} (inside : other < geometry.inodeCount)
    (different : other ≠ number) :
    after.slot geometry other = before.slot geometry other := by
  unfold Content.slot
  rw [filled.others (.record other) inside (by simpa using different) (by simp)]

theorem live_of_ne {other : Nat} (different : other ≠ number) :
    after.Live geometry other ↔ before.Live geometry other := by
  by_cases inside : other < geometry.inodeCount
  · have same : after.inode geometry other = before.inode geometry other := by
      unfold Content.inode
      rw [filled.slot_of_ne inside different]
    constructor
    · intro live
      refine ⟨inside, ?_⟩
      rw [← same]
      exact live.nonempty
    · intro live
      refine ⟨inside, ?_⟩
      rw [same]
      exact live.nonempty
  · exact ⟨fun live => absurd live.inside inside, fun live => absurd live.inside inside⟩

theorem parsed (parsed : ∀ number, number < geometry.inodeCount →
      ∃ inode, before.slot geometry number = .ok inode)
    (other : Nat) (inside : other < geometry.inodeCount) :
    ∃ inode, after.slot geometry other = .ok inode := by
  by_cases same : other = number
  · rw [same]
    exact ⟨_, filled.slot⟩
  · rw [filled.slot_of_ne inside same]
    exact parsed other inside

theorem live_self (inside : number < geometry.inodeCount) :
    after.Live geometry number ↔ inode.kind ≠ .empty :=
  live_of_slot inside filled.slot

/-- Moving the cursor afterwards. -/
theorem move (long : geometry.imageLength ≤ before.size) (inside : number < geometry.inodeCount)
    (bound : next < Limit.word64) :
    Filled geometry before (after.write Counter.nextFreeInode.offset (.ofNat 8 next)) number inode
      next := by
  have stop := @Area.stop_le_imageLength geometry (.counter .nextFreeInode) trivial
  have within : Counter.nextFreeInode.offset + (Bytes.ofNat 8 next).length ≤
      Area.first geometry (.counter .nextFreeInode) +
        Area.length geometry (.counter .nextFreeInode) := by
    rw [Bytes.length_ofNat]
    exact Nat.le_refl _
  have agree : Disk.AgreeBut geometry (.counter .nextFreeInode) after
      (after.write Counter.nextFreeInode.offset (.ofNat 8 next)) :=
    Disk.agreeBut_write (.counter .nextFreeInode) trivial after (Nat.le_refl _) within
  have moved := congrArg Disk.counter (@Disk.of_write_counter geometry after .nextFreeInode next bound)
  dsimp only at moved
  constructor
  · rw [Content.size_write_of_fits, filled.size]
    rw [filled.size, Bytes.length_ofNat]
    exact Nat.le_trans stop long
  · rw [← filled.slot]
    unfold Content.slot
    rw [agree.area (.record number) inside (by simp)]
  · refine (congrFun moved .nextFreeInode).trans ?_
    rw [Function.update_self]
  · intro area valid different different'
    rw [agree.area area valid different', filled.others area valid different different']

end Filled

end Content

/-! Accesses to the table -/

namespace Volume

variable {volume : Volume} {backing : Backing} {number : Nat} {inode : Inode}

section Long

variable (long : volume.geometry.imageLength ≤ backing.content.size)

include long

theorem readCursor_apply : volume.readCounter Superblock.nextFreeInodeOffset backing =
    .ok (backing.content.slotCursor volume.geometry) := by
  have within := @Area.stop_le_imageLength volume.geometry (.counter .nextFreeInode) trivial
  unfold readCounter Device.readWord
  exact Query.bind_ok (volume.read_of_long long within)

theorem getInode_apply (inside : number < volume.geometry.inodeCount)
    (isSlot : backing.content.slot volume.geometry number = .ok inode) :
    volume.getInode number backing = .ok inode := by
  have judges := volume.getInode_judges backing inside
  rw [isSlot] at judges
  exact (getInode_decides long inside).answers judges

omit long in
theorem getInode_outside (outside : volume.geometry.inodeCount ≤ number) :
    volume.getInode number backing = .error (.failed (.corrupt volume.geometry.firstInodeBlock
      (.outsideTable number volume.geometry.inodeCount))) := by
  unfold getInode readInodeRecord
  rw [volume.inodeOffset_of_le outside]
  rfl

/-- A search goes on to the next empty slot. -/
theorem findEmpty_apply {count : Nat}
    (parsed : ∀ number, number < volume.geometry.inodeCount →
      ∃ inode, backing.content.slot volume.geometry number = .ok inode)
    (positive : 0 < number) (inside : number + count ≤ volume.geometry.inodeCount) :
    ∃ found, volume.findEmpty count number backing = .ok found ∧
      backing.content.LowestVacant volume.geometry number (number + count) found := by
  induction count generalizing number with
  | zero => exact ⟨0, rfl, .nowhere ..⟩
  | succ count induction =>
      have here : number < volume.geometry.inodeCount := by omega
      obtain ⟨inode, isSlot⟩ := parsed number here
      have isLive := Content.live_of_slot here isSlot
      unfold findEmpty
      rw [Query.bind_ok (getInode_apply long here isSlot)]
      by_cases isEmpty : inode.isEmpty = true
      · rw [if_pos isEmpty]
        refine ⟨number, rfl, .here positive (Nat.lt_add_of_pos_right (Nat.succ_pos count)) ?_⟩
        rw [isLive]
        simpa [Inode.isEmpty] using isEmpty
      · rw [if_neg isEmpty]
        obtain ⟨found, ends, lowest⟩ := @induction (number + 1) (Nat.succ_pos number) (by omega)
        rw [Nat.succ_add_eq_add_succ] at lowest
        refine ⟨found, ends, lowest.onward ?_⟩
        rw [isLive]
        simpa [Inode.isEmpty] using isEmpty

end Long

theorem putInode_fills (long : volume.geometry.imageLength ≤ backing.content.size)
    (inside : number < volume.geometry.inodeCount)
    (short : inode.name.utf8ByteSize ≤ Path.maxNameLength) :
    ∃ name after, volume.putInode number inode backing =
        (.ok (), { backing with content := after }) ∧
      ('\x00' ∉ inode.name.toList → name = inode.name) ∧
      backing.content.Filled volume.geometry after number { inode with name }
        (backing.content.slotCursor volume.geometry) := by
  have roundTrips := Inode.nameFirst.roundTrips (by decide)
  obtain ⟨record, encoded⟩ := (roundTrips.encodes_iff inode).mpr short
  have filled := Content.Filled.of_record long inside encoded
  refine ⟨_, _, ?_, fun noZero => ?_, filled⟩
  · unfold putInode
    rw [Text.length_bytesOf, if_neg (Nat.not_lt.mpr short)]
    exact volume.writeInode_apply backing inside encoded
  · have parsed := roundTrips.parses inode record noZero encoded
    rw [Inode.parse_encode encoded] at parsed
    exact congrArg Inode.name (Except.ok.inj parsed)

theorem putInode_long (long : Path.maxNameLength < inode.name.utf8ByteSize) :
    volume.putInode number inode backing = (.error (.failed .nameTooLong), backing) := by
  unfold putInode
  rw [Text.length_bytesOf, if_pos long]
  rfl

end Volume

/-! How calls end -/

/-- What an insertion answers and what content it leaves. -/
inductive Inserted (geometry : Geometry) (before : Content) (inode : Inode) :
    Except Halt Nat → Content → Prop where
  | full (none : before.slotCursor geometry = 0) :
      Inserted geometry before inode (.error (.failed .noFreeInodes)) before
  | tooLong (some : before.slotCursor geometry ≠ 0)
      (long : Path.maxNameLength < inode.name.utf8ByteSize) :
      Inserted geometry before inode (.error (.failed .nameTooLong)) before
  | filled {slot : Inode} {name : String} {after : Content} {next : Nat}
      (some : before.slotCursor geometry ≠ 0)
      (short : inode.name.utf8ByteSize ≤ Path.maxNameLength)
      (was : before.slot geometry (before.slotCursor geometry) = .ok slot)
      (named : '\x00' ∉ inode.name.toList → name = inode.name)
      (filled : before.Filled geometry after (before.slotCursor geometry)
        { inode with name, generation := slot.generation } next)
      (lowest : after.LowestVacant geometry (before.slotCursor geometry + 1)
        geometry.inodeCount next) :
      Inserted geometry before inode (.ok (before.slotCursor geometry)) after

/-- What emptying a slot answers and what content it leaves. -/
inductive Vacated (geometry : Geometry) (before : Content) (number : Nat) :
    Except Halt Unit → Content → Prop where
  | reserved (reserved : number < InodeNumber.firstFree) :
      Vacated geometry before number (.error (.failed (.corrupt (geometry.inodeBlock number)
        (.inodeReserved number)))) before
  | outside (outside : geometry.inodeCount ≤ number) :
      Vacated geometry before number (.error (.failed (.corrupt geometry.firstInodeBlock
        (.outsideTable number geometry.inodeCount)))) before
  | vacated {slot : Inode} {after : Content} (free : InodeNumber.firstFree ≤ number)
      (inside : number < geometry.inodeCount) (was : before.slot geometry number = .ok slot)
      (filled : before.Filled geometry after number
        { Inode.empty with generation := slot.generation + 1 }
        (lowered (before.slotCursor geometry) number)) :
      Vacated geometry before number (.ok ()) after

theorem Vacated.eq_of_error {before after : Content} {number : Nat} {halt : Halt}
    (vacated : Vacated geometry before number (.error halt) after) : before = after := by
  cases vacated <;> rfl

/-- The slots can be read and count how often they were emptied, those that are never handed out are
live, and the cursor is the lowest empty one. -/
structure Content.TableInOrder (content : Content) (geometry : Geometry) (emptied : Nat → Nat) :
    Prop where
  long : geometry.imageLength ≤ content.size
  counted : ∀ number, number < geometry.inodeCount → ∃ inode,
    content.slot geometry number = .ok inode ∧ inode.generation.toNat = emptied number % 256
  reserved : ∀ number, number < InodeNumber.firstFree → content.Live geometry number
  cursor : content.CursorAtLowest geometry (content.slotCursor geometry)

namespace Volume

variable {volume : Volume} {backing : Backing} {emptied : Nat → Nat}

theorem writeCursor_apply {next : Nat} (volume : Volume) (backing : Backing) :
    volume.writeCounter Superblock.nextFreeInodeOffset next backing = (.ok (), { backing with
      content := backing.content.write Counter.nextFreeInode.offset (.ofNat 8 next) }) := by
  have within := @Area.stop_le_imageLength volume.geometry (.counter .nextFreeInode) trivial
  unfold writeCounter Device.writeWord
  apply volume.write_apply backing
  rw [Bytes.length_ofNat]
  exact within

/-! Insertions -/

theorem insertInode_full (long : volume.geometry.imageLength ≤ backing.content.size)
    (none : backing.content.slotCursor volume.geometry = 0) :
    volume.insertInode inode backing = (.error (.failed .noFreeInodes), backing) := by
  have read := readCursor_apply long
  rw [none] at read
  unfold insertInode
  exact Update.bind_query read

section Slot

variable {cursor : Nat} {slot : Inode} (long : volume.geometry.imageLength ≤ backing.content.size)
  (isCursor : backing.content.slotCursor volume.geometry = cursor)
  (free : InodeNumber.firstFree ≤ cursor) (inside : cursor < volume.geometry.inodeCount)
  (isSlot : backing.content.slot volume.geometry cursor = .ok slot) (vacant : slot.kind = .empty)

include long isCursor free inside isSlot vacant

theorem insertInode_apply : volume.insertInode inode backing = (do
    volume.putInode cursor { inode with generation := slot.generation }
    let next ← volume.findEmpty (volume.geometry.inodeCount - (cursor + 1)) (cursor + 1)
    volume.writeCounter Superblock.nextFreeInodeOffset next
    return cursor : Update Nat) backing := by
  have read := readCursor_apply long
  rw [isCursor] at read
  have some : cursor ≠ 0 := Nat.ne_of_gt (Nat.lt_of_lt_of_le (by decide) free)
  have isEmpty : ¬ (!slot.isEmpty) = true := by
    simp [Inode.isEmpty, vacant]
  unfold insertInode
  refine (Update.bind_query read).trans ?_
  rw [if_neg some, if_neg (InodeNumber.not_isReserved free)]
  refine (Update.bind_query (getInode_apply long inside isSlot)).trans ?_
  rw [if_neg isEmpty]

theorem insertInode_fills {middle : Backing} {next : Nat}
    (put : volume.putInode cursor { inode with generation := slot.generation } backing =
      (.ok (), middle))
    (found : volume.findEmpty (volume.geometry.inodeCount - (cursor + 1)) (cursor + 1) middle =
      .ok next) :
    volume.insertInode inode backing = (.ok cursor, { middle with
      content := middle.content.write Counter.nextFreeInode.offset (.ofNat 8 next) }) := by
  rw [insertInode_apply long isCursor free inside isSlot vacant]
  refine (Update.bind_ok put).trans ?_
  refine (Update.bind_query found).trans ?_
  exact Update.bind_ok (volume.writeCursor_apply middle)

theorem insertInode_tooLong (tooLong : Path.maxNameLength < inode.name.utf8ByteSize) :
    volume.insertInode inode backing = (.error (.failed .nameTooLong), backing) := by
  rw [insertInode_apply long isCursor free inside isSlot vacant]
  exact Update.bind_error (putInode_long tooLong)

end Slot

theorem insertInode_ends (inOrder : backing.content.TableInOrder volume.geometry emptied)
    (inode : Inode) : ∃ answer after,
      volume.insertInode inode backing = (answer, { backing with content := after }) ∧
        Inserted volume.geometry backing.content inode answer after := by
  have long := inOrder.long
  by_cases full : backing.content.slotCursor volume.geometry = 0
  · exact ⟨_, _, insertInode_full long full, .full full⟩
  obtain ⟨free, inside, vacant⟩ := inOrder.cursor.vacant full
  obtain ⟨slot, isSlot, -⟩ := inOrder.counted _ inside
  have isEmpty : slot.kind = .empty := by
    rw [Content.live_of_slot inside isSlot] at vacant
    exact not_not.mp vacant
  by_cases short : inode.name.utf8ByteSize ≤ Path.maxNameLength
  · obtain ⟨name, middle, put, named, filled⟩ := @putInode_fills volume backing _
      { inode with generation := slot.generation } long inside short
    have long' : volume.geometry.imageLength ≤ middle.size :=
      long.trans (Nat.le_of_eq filled.size.symm)
    have parsed := filled.parsed fun number inside =>
      (inOrder.counted number inside).imp fun _ => And.left
    obtain ⟨next, found, lowest⟩ := @findEmpty_apply volume { backing with content := middle } _ long'
      (volume.geometry.inodeCount - (backing.content.slotCursor volume.geometry + 1)) parsed
      (Nat.succ_pos _) (Nat.le_of_eq (Nat.add_sub_cancel' inside))
    rw [Nat.add_sub_cancel' inside] at lowest
    have bound : next < Limit.word64 :=
      Nat.lt_of_le_of_lt lowest.le_stop volume.geometry.inodeCount_lt
    have moved := filled.move long inside bound
    refine ⟨_, _, ?_, .filled full short isSlot named moved ?_⟩
    · exact insertInode_fills long rfl free inside isSlot isEmpty put found
    · apply lowest.congr
      intro number behind
      have different : number ≠ backing.content.slotCursor volume.geometry := Nat.ne_of_gt behind
      exact (moved.live_of_ne different).trans (filled.live_of_ne different).symm
  · have tooLong := Nat.lt_of_not_le short
    exact ⟨_, _, insertInode_tooLong long rfl free inside isSlot isEmpty tooLong,
      .tooLong full tooLong⟩

/-! Emptyings -/

theorem emptyInode_reserved (reserved : number < InodeNumber.firstFree) :
    volume.emptyInode number backing = (.error (.failed (.corrupt
      (volume.geometry.inodeBlock number) (.inodeReserved number))), backing) := by
  have isReserved : InodeNumber.isReserved number = true := decide_eq_true reserved
  unfold emptyInode
  rw [if_pos isReserved]
  rfl

theorem emptyInode_outside (outside : volume.geometry.inodeCount ≤ number) :
    volume.emptyInode number backing = (.error (.failed (.corrupt volume.geometry.firstInodeBlock
      (.outsideTable number volume.geometry.inodeCount))), backing) := by
  have table := volume.geometry.four_le_inodeCount
  have free : InodeNumber.firstFree ≤ number :=
    Nat.le_trans (by decide) (Nat.le_trans table outside)
  unfold emptyInode
  rw [if_neg (InodeNumber.not_isReserved free)]
  apply Update.bind_error
  rw [Update.lift_apply, getInode_outside outside]

theorem emptyInode_vacates {slot : Inode} {middle : Backing} {cursor : Nat}
    (free : InodeNumber.firstFree ≤ number)
    (read : volume.getInode number backing = .ok slot)
    (put : volume.putInode number { Inode.empty with generation := slot.generation + 1 } backing =
      (.ok (), middle))
    (isCursor : volume.readCounter Superblock.nextFreeInodeOffset middle = .ok cursor) :
    volume.emptyInode number backing = (.ok (),
      if cursor = 0 ∨ number < cursor then { middle with
        content := middle.content.write Counter.nextFreeInode.offset (.ofNat 8 number) }
      else middle) := by
  unfold emptyInode
  rw [if_neg (InodeNumber.not_isReserved free)]
  refine (Update.bind_query read).trans ?_
  refine (Update.bind_ok put).trans ?_
  refine (Update.bind_query isCursor).trans ?_
  split
  · exact volume.writeCursor_apply middle
  · rfl

theorem emptyInode_ends (inOrder : backing.content.TableInOrder volume.geometry emptied)
    (number : Nat) : ∃ answer after,
      volume.emptyInode number backing = (answer, { backing with content := after }) ∧
        Vacated volume.geometry backing.content number answer after := by
  have long := inOrder.long
  by_cases reserved : number < InodeNumber.firstFree
  · exact ⟨_, _, emptyInode_reserved reserved, .reserved reserved⟩
  by_cases outside : volume.geometry.inodeCount ≤ number
  · exact ⟨_, _, emptyInode_outside outside, .outside outside⟩
  have free := Nat.not_lt.mp reserved
  have inside := Nat.not_le.mp outside
  obtain ⟨slot, isSlot, -⟩ := inOrder.counted number inside
  obtain ⟨name, middle, put, named, filled⟩ := @putInode_fills volume backing _
    { Inode.empty with generation := slot.generation + 1 } long inside (Nat.zero_le _)
  have noName : name = "" := named (show '\x00' ∉ ("" : String).toList by decide)
  subst noName
  have isCursor := @readCursor_apply volume { backing with content := middle }
    (long.trans (Nat.le_of_eq filled.size.symm))
  have ends := emptyInode_vacates free (getInode_apply long inside isSlot) put isCursor
  dsimp only at ends
  rw [filled.cursor] at ends
  by_cases lower : backing.content.slotCursor volume.geometry = 0 ∨
      number < backing.content.slotCursor volume.geometry
  · rw [if_pos lower] at ends
    have moved := filled.move long inside (inside.trans volume.geometry.inodeCount_lt)
    refine ⟨_, _, ends, .vacated free inside isSlot ?_⟩
    rwa [lowered, if_pos lower]
  · rw [if_neg lower] at ends
    refine ⟨_, _, ends, .vacated free inside isSlot ?_⟩
    rwa [lowered, if_neg lower]

end Volume

/-! Tables in order -/

namespace Content

variable {before after : Content} {number cursor next : Nat} {stored slot : Inode}
  {emptied emptied' : Nat → Nat}

theorem CursorAtLowest.of_nonempty (atLowest : before.CursorAtLowest geometry cursor)
    (some : cursor ≠ 0)
    (filled : before.Filled geometry after cursor stored next) (nonempty : stored.kind ≠ .empty)
    (lowest : after.LowestVacant geometry (cursor + 1) geometry.inodeCount next) :
    after.CursorAtLowest geometry next := by
  obtain ⟨free, inside, -⟩ := atLowest.vacant some
  constructor
  · intro other free' inside' lower
    rcases Nat.lt_trichotomy other cursor with before' | same | behind
    · apply (filled.live_of_ne (Nat.ne_of_lt before')).mpr
      exact atLowest.below other free' inside' (.inr before')
    · subst same
      exact (filled.live_self inside).mpr nonempty
    · exact lowest.below other behind inside' lower
  · intro some'
    obtain ⟨behind, inside', vacant⟩ := lowest.vacant some'
    exact ⟨by omega, inside', vacant⟩

theorem CursorAtLowest.of_empty (atLowest : before.CursorAtLowest geometry cursor)
    (free : InodeNumber.firstFree ≤ number) (inside : number < geometry.inodeCount)
    (filled : before.Filled geometry after number stored next) (empty : stored.kind = .empty) :
    after.CursorAtLowest geometry (lowered cursor number) := by
  have positive : number ≠ 0 := Nat.ne_of_gt (Nat.lt_of_lt_of_le (by decide) free)
  have vacant : ¬ after.Live geometry number := by
    rw [filled.live_self inside]
    exact not_not.mpr empty
  unfold lowered
  split
  · next lower =>
    constructor
    · intro other free' inside' lower'
      have different : other ≠ number := by omega
      apply (filled.live_of_ne different).mpr
      exact atLowest.below other free' inside' (by omega)
    · exact fun _ => ⟨free, inside, vacant⟩
  · next upper =>
    constructor
    · intro other free' inside' lower'
      have different : other ≠ number := by omega
      apply (filled.live_of_ne different).mpr
      exact atLowest.below other free' inside' lower'
    · intro some
      obtain ⟨free', inside', vacant'⟩ := atLowest.vacant some
      refine ⟨free', inside', ?_⟩
      by_cases same : cursor = number
      · rw [same]
        exact vacant
      · rw [filled.live_of_ne same]
        exact vacant'

namespace TableInOrder

variable (inOrder : before.TableInOrder geometry emptied)

include inOrder

theorem of_filled (free : InodeNumber.firstFree ≤ number)
    (filled : before.Filled geometry after number stored next)
    (counts : stored.generation.toNat = emptied' number % 256)
    (others : ∀ other, other ≠ number → emptied' other = emptied other)
    (atLowest : after.CursorAtLowest geometry next) : after.TableInOrder geometry emptied' where
  long := inOrder.long.trans (Nat.le_of_eq filled.size.symm)
  counted other inside := by
    by_cases same : other = number
    · rw [same]
      exact ⟨stored, filled.slot, counts⟩
    · rw [filled.slot_of_ne inside same, others other same]
      exact inOrder.counted other inside
  reserved other reserved := by
    apply (filled.live_of_ne (Nat.ne_of_lt (Nat.lt_of_lt_of_le reserved free))).mpr
    exact inOrder.reserved other reserved
  cursor := by rwa [filled.cursor]

theorem generation_of_slot (inside : number < geometry.inodeCount)
    (isSlot : before.slot geometry number = .ok slot) :
    slot.generation.toNat = emptied number % 256 := by
  obtain ⟨inode, isInode, counts⟩ := inOrder.counted number inside
  rw [isSlot] at isInode
  cases isInode
  exact counts

/-- An insertion keeps the table in order. -/
theorem inserted {inode : Inode} {answer : Except Halt Nat} (nonempty : inode.kind ≠ .empty)
    (inserted : Inserted geometry before inode answer after) :
    after.TableInOrder geometry emptied := by
  cases inserted with
  | full none => exact inOrder
  | tooLong some long => exact inOrder
  | filled some short was named filled lowest =>
    obtain ⟨free, inside, -⟩ := inOrder.cursor.vacant some
    have generation := inOrder.generation_of_slot inside was
    apply inOrder.of_filled free filled
    · exact generation
    · exact fun other different => rfl
    · exact inOrder.cursor.of_nonempty some filled nonempty lowest

/-- The table stays in order when a slot is emptied, and the emptying counts. -/
theorem vacated (vacated : Vacated geometry before number (.ok ()) after) :
    after.TableInOrder geometry (Function.update emptied number (emptied number + 1)) := by
  cases vacated with
  | vacated free inside was filled =>
    apply inOrder.of_filled free filled
    · rw [Function.update_self]
      refine (UInt8.toNat_add _ _).trans ?_
      rw [inOrder.generation_of_slot inside was]
      exact Nat.mod_add_mod _ _ _
    · exact fun other different => Function.update_of_ne different _ _
    · exact inOrder.cursor.of_empty free inside filled rfl

end TableInOrder

end Content

/-! Calls one after another -/

/-- A call of the inode table with its answer. -/
inductive SlotCall where
  | insert (inode : Inode) (answer : Except Halt Nat)
  | empty (number : Nat) (answer : Except Halt Unit)

namespace SlotCall

/-- How often the calls have emptied the slot. -/
def emptyings (number : Nat) : List SlotCall → Nat
  | [] => 0
  | .insert _ _ :: calls => emptyings number calls
  | .empty _ (.error _) :: calls => emptyings number calls
  | .empty emptied (.ok ()) :: calls =>
      if number = emptied then emptyings number calls + 1 else emptyings number calls

theorem emptyings_cons_empty (number : Nat) (calls : List SlotCall) :
    (emptyings · (.empty number (.ok ()) :: calls)) =
      Function.update (emptyings · calls) number (emptyings number calls + 1) := by
  funext other
  rw [Function.update_apply, emptyings]
  split
  · next same => rw [same]
  · rfl

end SlotCall

variable {volume : Volume} {start backing after : Backing} {calls : List SlotCall}

/-- What calls make of a file that insert files and directories and that empty slots; the last call
stands first. -/
inductive SlotRun (volume : Volume) (start : Backing) : List SlotCall → Backing → Prop where
  | start : SlotRun volume start [] start
  | insert {calls : List SlotCall} {before after : Backing} {inode : Inode}
      {answer : Except Halt Nat} (run : SlotRun volume start calls before)
      (nonempty : inode.kind ≠ .empty)
      (called : volume.insertInode inode before = (answer, after)) :
      SlotRun volume start (.insert inode answer :: calls) after
  | empty {calls : List SlotCall} {before after : Backing} {number : Nat}
      {answer : Except Halt Unit} (run : SlotRun volume start calls before)
      (called : volume.emptyInode number before = (answer, after)) :
      SlotRun volume start (.empty number answer :: calls) after

theorem SlotRun.inOrder (run : SlotRun volume start calls backing)
    (starts : start.content.TableInOrder volume.geometry fun _ => 0) :
    backing.content.TableInOrder volume.geometry fun number => SlotCall.emptyings number calls := by
  induction run with
  | start => exact starts
  | @insert calls before after inode answer run nonempty called inOrder =>
    obtain ⟨answer, content, ends, inserted⟩ := Volume.insertInode_ends inOrder inode
    rw [called] at ends
    cases ends
    exact inOrder.inserted nonempty inserted
  | @empty calls before after number answer run called inOrder =>
    obtain ⟨answer, content, ends, vacated⟩ := Volume.emptyInode_ends inOrder number
    rw [called] at ends
    cases ends
    cases answer with
    | error halt =>
      rw [← Vacated.eq_of_error vacated]
      exact inOrder
    | ok =>
      have counted := inOrder.vacated vacated
      rwa [← SlotCall.emptyings_cons_empty] at counted

/-! The table of a new image -/

theorem Content.Presents.slot {content : Content} {size number : Nat}
    (presents : content.Presents geometry size (Disk.fresh geometry))
    (inside : number < geometry.inodeCount) :
    content.slot geometry number =
      .ok ((Tree.fresh number).inode (geometry.firstChain number)) := by
  have record : (Disk.of geometry content).record number = content.area geometry (.record number) :=
    if_pos inside
  rw [presents.disk, Disk.record_fresh inside] at record
  unfold Content.slot
  rw [← record]
  exact Inode.parse_record (Tree.nameFits_fresh number)

theorem Content.Presents.inOrder {content : Content} {size : Nat}
    (presents : content.Presents geometry size (Disk.fresh geometry))
    (long : geometry.imageLength ≤ size) : content.TableInOrder geometry fun _ => 0 := by
  have table := geometry.four_le_inodeCount
  have isCursor : content.slotCursor geometry = InodeNumber.firstFree :=
    congrFun (congrArg Disk.counter presents.disk) .nextFreeInode
  have inside : InodeNumber.firstFree < geometry.inodeCount := Nat.lt_of_lt_of_le (by decide) table
  constructor
  · exact long.trans (Nat.le_of_eq presents.size.symm)
  · intro number inside
    refine ⟨_, presents.slot inside, ?_⟩
    exact congrArg UInt8.toNat (Tree.generation_fresh number)
  · intro number reserved
    apply (Content.live_of_slot (reserved.trans inside) (presents.slot (reserved.trans inside))).mpr
    have nonempty : ∀ number < InodeNumber.firstFree, (Tree.fresh number).body.kind ≠ .empty := by
      decide
    exact nonempty number reserved
  · rw [isCursor]
    constructor
    · intro number free _ lower
      have first : InodeNumber.firstFree = 2 := rfl
      exfalso
      omega
    · intro some
      refine ⟨Nat.le_refl _, inside, ?_⟩
      rw [Content.live_of_slot inside (presents.slot inside)]
      exact fun nonempty => nonempty rfl

/-! What calls do -/

/-- An insertion fills the lowest empty slot, or it fails and changes nothing. -/
structure InsertsLowest (geometry : Geometry) (before : Backing) (inode : Inode)
    (answer : Except Halt Nat) (after : Backing) : Prop where
  full_iff : answer = .error (.failed .noFreeInodes) ↔
    ∀ number, number < geometry.inodeCount → before.content.Live geometry number
  tooLong_iff : answer = .error (.failed .nameTooLong) ↔
    (∃ number, number < geometry.inodeCount ∧ ¬ before.content.Live geometry number) ∧
      237 < inode.name.utf8ByteSize
  fails : ∀ halt, answer = .error halt →
    (halt = .failed .noFreeInodes ∨ halt = .failed .nameTooLong) ∧ after = before
  fills : ∀ number, answer = .ok number →
    number = before.content.slotCursor geometry ∧ number ≠ 0 ∧ after.locks = before.locks ∧
      ∃ slot name next, before.content.slot geometry number = .ok slot ∧
        ('\x00' ∉ inode.name.toList → name = inode.name) ∧
        before.content.Filled geometry after.content number
          { inode with name, generation := slot.generation } next

/-- Emptying a slot succeeds when it may be handed out, or it fails and changes nothing. -/
structure EmptiesSlot (geometry : Geometry) (before : Backing) (number : Nat)
    (answer : Except Halt Unit) (after : Backing) : Prop where
  fails_iff : (∃ halt, answer = .error halt) ↔
    number < InodeNumber.firstFree ∨ geometry.inodeCount ≤ number
  fails : ∀ halt, answer = .error halt → after = before
  empties : answer = .ok () → after.locks = before.locks ∧
    ∃ slot, before.content.slot geometry number = .ok slot ∧
      before.content.Filled geometry after.content number
        { Inode.empty with generation := slot.generation + 1 }
        (lowered (before.content.slotCursor geometry) number)

namespace Content.TableInOrder

variable {volume : Volume} {before after : Backing} {emptied : Nat → Nat}
  (inOrder : before.content.TableInOrder volume.geometry emptied)

include inOrder

theorem cursor_eq_zero_iff : before.content.slotCursor volume.geometry = 0 ↔
    ∀ number, number < volume.geometry.inodeCount → before.content.Live volume.geometry number := by
  constructor
  · intro none number inside
    by_cases reserved : number < InodeNumber.firstFree
    · exact inOrder.reserved number reserved
    · exact inOrder.cursor.below number (Nat.not_lt.mp reserved) inside (.inl none)
  · intro live
    by_contra some
    obtain ⟨-, inside, vacant⟩ := inOrder.cursor.vacant some
    exact vacant (live _ inside)

theorem exists_vacant_iff :
    (∃ number, number < volume.geometry.inodeCount ∧
      ¬ before.content.Live volume.geometry number) ↔
      before.content.slotCursor volume.geometry ≠ 0 := by
  rw [Ne, inOrder.cursor_eq_zero_iff]
  simp only [not_forall, exists_prop]

theorem insertsLowest {inode : Inode} {answer : Except Halt Nat}
    (called : volume.insertInode inode before = (answer, after)) :
    InsertsLowest volume.geometry before inode answer after := by
  have full := inOrder.cursor_eq_zero_iff
  have vacant := inOrder.exists_vacant_iff
  obtain ⟨answer, content, ends, inserted⟩ := Volume.insertInode_ends inOrder inode
  rw [called] at ends
  cases ends
  cases inserted with
  | full none =>
    constructor
    · simp [← full, none]
    · simp [vacant, none]
    · simp
    · simp
  | tooLong some long =>
    have long' : 237 < inode.name.utf8ByteSize := long
    constructor
    · simp [← full, some]
    · simp [vacant, some, long']
    · simp
    · simp
  | filled some short was named filled lowest =>
    have short' : ¬ 237 < inode.name.utf8ByteSize := Nat.not_lt.mpr short
    constructor
    · simp [← full, some]
    · simp [short']
    · simp
    · intro number isNumber
      obtain rfl := Except.ok.inj isNumber
      exact ⟨rfl, some, rfl, _, _, _, was, named, filled⟩

theorem emptiesSlot {number : Nat} {answer : Except Halt Unit}
    (called : volume.emptyInode number before = (answer, after)) :
    EmptiesSlot volume.geometry before number answer after := by
  obtain ⟨answer, content, ends, vacated⟩ := Volume.emptyInode_ends inOrder number
  rw [called] at ends
  cases ends
  cases vacated with
  | reserved reserved =>
    exact ⟨by simp [reserved], by simp, by simp⟩
  | outside outside => exact ⟨by simp [outside], by simp, by simp⟩
  | @vacated slot content free inside was filled =>
    exact ⟨by simp [free, inside], by simp, fun _ => ⟨rfl, slot, was, filled⟩⟩

end Content.TableInOrder

/-! The whole life of a table -/

/-- After any calls on a new image the cursor is the lowest empty slot, the generation of each slot
counts its emptyings, and the next call does what it is to do. -/
theorem Volume.cursor_names_lowest (volume : Volume) (locks : LockTable) :
    ∃ start, volume.format ⟨Content.empty.resize volume.device.length, locks⟩ = (.ok (), start) ∧
      ∀ calls backing, SlotRun volume start calls backing →
        backing.content.CursorAtLowest volume.geometry
          (backing.content.slotCursor volume.geometry) ∧
        (∀ number, number < volume.geometry.inodeCount → ∃ inode,
          backing.content.slot volume.geometry number = .ok inode ∧
          inode.generation.toNat = SlotCall.emptyings number calls % 256) ∧
        (∀ inode answer after, volume.insertInode inode backing = (answer, after) →
          InsertsLowest volume.geometry backing inode answer after) ∧
        (∀ number answer after, volume.emptyInode number backing = (answer, after) →
          EmptiesSlot volume.geometry backing number answer after) := by
  obtain ⟨content, formatted, presents⟩ := volume.format_apply volume.fits locks
  refine ⟨_, formatted, fun calls backing run => ?_⟩
  have inOrder := run.inOrder (presents.inOrder volume.fits)
  exact ⟨inOrder.cursor, inOrder.counted, fun _ _ _ called => inOrder.insertsLowest called,
    fun _ _ _ called => inOrder.emptiesSlot called⟩

theorem Volume.cursor_names_lowest_refilled :
    ∃ start emptied refilled,
      (Session.smallest.volume 0).format ⟨Content.empty.resize Session.smallest.imageLength, []⟩ =
        (.ok (), start) ∧
      (Session.smallest.volume 0).emptyInode 2 start = (.ok (), emptied) ∧
      (Session.smallest.volume 0).insertInode (.new "a" .file) emptied = (.ok 2, refilled) ∧
      ∃ inode, refilled.content.slot Session.smallest 2 = .ok inode ∧
        inode.generation.toNat = 1 := by
  obtain ⟨start, formatted, serves⟩ := cursor_names_lowest (Session.smallest.volume 0) []
  have inside : 2 < Session.smallest.inodeCount := by decide
  obtain ⟨-, -, -, empties⟩ := serves [] start .start
  rcases isEmptied : (Session.smallest.volume 0).emptyInode 2 start with ⟨answer, emptied⟩
  have does := empties 2 answer emptied isEmptied
  cases answer with
  | error halt => exact absurd (does.fails_iff.mp ⟨halt, rfl⟩) (by decide)
  | ok =>
    obtain ⟨-, slot, -, filled⟩ := does.empties rfl
    have run := SlotRun.empty .start isEmptied
    obtain ⟨lowest, -, inserts, -⟩ := serves _ emptied run
    have vacant : ¬ emptied.content.Live Session.smallest 2 := fun live =>
      (filled.live_self inside).mp live rfl
    rcases isRefilled : (Session.smallest.volume 0).insertInode (.new "a" .file) emptied with
      ⟨answer, refilled⟩
    have does := inserts _ answer refilled isRefilled
    cases answer with
    | error halt =>
      rcases (does.fails halt rfl).1 with rfl | rfl
      · exact absurd (does.full_iff.mp rfl 2 inside) vacant
      · exact absurd (does.tooLong_iff.mp rfl).2 (by decide)
    | ok number =>
      obtain ⟨isCursor, some, -⟩ := does.fills number rfl
      rw [← isCursor] at lowest
      have free := (lowest.vacant some).1
      have isTwo : number = 2 := by
        by_contra different
        have below : 2 < number := Nat.lt_of_le_of_ne free (Ne.symm different)
        exact vacant (lowest.below 2 (Nat.le_refl _) inside (.inr below))
      rw [isTwo] at isRefilled
      obtain ⟨-, counts, -⟩ := serves _ refilled (run.insert (by decide) isRefilled)
      exact ⟨start, emptied, refilled, formatted, isEmptied, isRefilled, counts 2 inside⟩

end ImageFs
