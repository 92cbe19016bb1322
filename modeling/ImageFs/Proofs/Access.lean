import ImageFs.Proofs.Steps

/-!
The primitive accesses of a volume, each as an answer about the disk or as a step to the disk with
one area changed.
-/

namespace ImageFs

open Function (update)

variable {α : Type}

namespace Volume

variable (volume : Volume)

/-! Places -/

theorem blockOffset_of_isData {block : Nat} (isData : volume.geometry.IsData block) :
    volume.blockOffset block = .ok (block * volume.geometry.blockSize) := by
  rw [blockOffset, Geometry.blockOffset?, if_pos isData.2]

theorem checkDataBlock_of_isData {block : Nat} (isData : volume.geometry.IsData block) :
    volume.checkDataBlock block = .ok () := by
  rw [checkDataBlock, Geometry.bitOfBlock?_of_isData isData]

theorem checkDataBlock_of_not_isData {block : Nat} (outside : ¬ volume.geometry.IsData block) :
    volume.checkDataBlock block = .error (.corrupt block
      (.notDataBlock volume.geometry.dataStart volume.geometry.totalBlocks)) := by
  rw [checkDataBlock, Geometry.bitOfBlock?_of_not_isData outside]

theorem linkOffset_of_isData {block : Nat} (isData : volume.geometry.IsData block) :
    volume.linkOffset block = .ok (Area.first volume.geometry (.link block)) := by
  rw [linkOffset, volume.checkDataBlock_of_isData isData, volume.blockOffset_of_isData isData]
  rfl

theorem inodeOffset_of_lt {inode : Nat} (valid : inode < volume.geometry.inodeCount) :
    volume.inodeOffset inode = .ok (Area.first volume.geometry (.record inode)) := by
  rw [inodeOffset, Geometry.inodeOffset?, if_pos valid]
  rfl

theorem inodeOffset_of_le {inode : Nat} (invalid : volume.geometry.inodeCount ≤ inode) :
    volume.inodeOffset inode = .error (.corrupt volume.geometry.firstInodeBlock
      (.outsideTable inode volume.geometry.inodeCount)) := by
  rw [inodeOffset, Geometry.inodeOffset?, if_neg (Nat.not_lt.mpr invalid)]

/-! Bytes -/

theorem read_of_long {backing : Backing}
    (long : volume.geometry.imageLength ≤ backing.content.size) {offset count : Nat}
    (inside : offset + count ≤ volume.geometry.imageLength) :
    volume.device.read offset count backing = .ok (backing.content.read offset count) := by
  have addressable : volume.geometry.imageLength < Limit.word64 := volume.geometry.addressable
  have fits := volume.fits
  have bounds : volume.device.checkBounds .read offset count = .ok () := by
    rw [Device.checkBounds, if_neg (by omega), if_neg (by omega)]
  rw [Device.read, bounds]
  change (if 0 < count ∧ backing.content.size < offset + count then _ else _) = _
  rw [if_neg (by omega)]

theorem read_apply {backing : Backing} (ready : volume.Ready backing) {offset count : Nat}
    (inside : offset + count ≤ volume.geometry.imageLength) :
    volume.device.read offset count backing = .ok (backing.content.read offset count) :=
  volume.read_of_long ready.long inside

theorem write_apply (backing : Backing) {offset : Nat} {bytes : Bytes}
    (inside : offset + bytes.length ≤ volume.geometry.imageLength) :
    volume.device.write offset bytes backing =
      (.ok (), { backing with content := backing.content.write offset bytes }) := by
  have addressable : volume.geometry.imageLength < Limit.word64 := volume.geometry.addressable
  have fits := volume.fits
  have bounds : volume.device.checkBounds .write offset bytes.length = .ok () := by
    rw [Device.checkBounds, if_neg (by omega), if_neg (by omega)]
  rw [Device.write, bounds]
  rfl

theorem write_append {offset : Nat} {first second : Bytes}
    (inside : offset + (first ++ second).length ≤ volume.geometry.imageLength) :
    volume.device.write offset (first ++ second) =
      (volume.device.write offset first >>= fun _ =>
        volume.device.write (offset + first.length) second) := by
  funext backing
  rw [volume.write_apply backing inside, Content.write_append]
  rw [List.length_append] at inside
  rw [Update.bind_ok (volume.write_apply backing (by omega)), volume.write_apply _ (by omega)]

end Volume

variable {volume : Volume} {disk before after : Disk}

theorem Answers.read {offset count : Nat} {bytes : Bytes}
    (inside : offset + count ≤ volume.geometry.imageLength)
    (shows : ∀ content, Disk.of volume.geometry content = disk →
      content.read offset count = bytes) :
    Answers volume (volume.device.read offset count) disk (.ok bytes) := by
  intro backing ready isDisk
  rw [volume.read_apply ready inside, shows backing.content isDisk]
  rfl

theorem Answers.readWord {offset value : Nat}
    (inside : offset + 8 ≤ volume.geometry.imageLength)
    (shows : ∀ content, Disk.of volume.geometry content = disk →
      (content.read offset 8).toNat = value) :
    Answers volume (volume.device.readWord offset) disk (.ok value) := by
  intro backing ready isDisk
  rw [Device.readWord, Query.bind_ok (volume.read_apply ready inside)]
  exact congrArg Except.ok (shows backing.content isDisk)

/-- A step may rely on what holds of every disk that a file shows. -/
theorem Leads.shown {update : Update α} {answer : Except FsError α}
    (each : ∀ content, Disk.of volume.geometry content = before →
      Leads volume update before answer after) :
    Leads volume update before answer after :=
  fun holders backing ready shows => each backing.content shows holders backing ready shows

theorem Leads.write (area : Area) (valid : area.Valid volume.geometry) (different : area ≠ .holders)
    {offset : Nat} {bytes : Bytes} (behind : area.first volume.geometry ≤ offset)
    (within : offset + bytes.length ≤ area.first volume.geometry + area.length volume.geometry)
    (shows : ∀ content, Disk.of volume.geometry content = before →
      Disk.of volume.geometry (content.write offset bytes) = after) :
    Leads volume (volume.device.write offset bytes) before (.ok ()) after := by
  intro holders backing ready isDisk counts
  have stop := area.stop_le_imageLength valid
  have long := ready.long
  refine ⟨_, volume.write_apply backing (by omega), ⟨⟨?_, ready.lockable, ready.own⟩, ?_, .refl _⟩,
    shows backing.content isDisk, ?_⟩
  · rw [Content.size_write_of_fits _ (by omega)]
    exact long
  · exact Content.size_write_of_fits _ (by omega)
  · rw [← counts]
    exact (Disk.agreeBut_write area valid backing.content behind within).holders different

/-! Counters and the bitmap -/

namespace Volume

theorem readCounter_answers (which : Counter) :
    Answers volume (volume.readCounter which.offset) disk (.ok (disk.counter which)) := by
  refine Answers.readWord (Area.stop_le_imageLength (.counter which) trivial) ?_
  rintro content rfl
  rfl

theorem writeCounter_leads (which : Counter) {value : Nat} (bound : value < Limit.word64) :
    Leads volume (volume.writeCounter which.offset value) before (.ok ())
      { before with counter := update before.counter which value } := by
  refine Leads.write (.counter which) trivial (by simp) (Nat.le_refl _)
    (by simp [Area.first, Area.length]) ?_
  rintro content rfl
  exact Disk.of_write_counter content which bound

theorem readBitmap_answers : Answers volume volume.readBitmap disk (.ok disk.bitmap) := by
  refine Answers.read (Area.stop_le_imageLength .bitmap trivial) ?_
  rintro content rfl
  rfl

theorem writeBitmap_leads {start : Nat} {bytes : Bytes}
    (fits : start + bytes.length ≤ volume.geometry.bitmapLength) :
    Leads volume (volume.writeBitmap start bytes) before (.ok ())
      { before with bitmap := before.bitmap.overlay start bytes } := by
  refine Leads.ite_neg (Nat.not_lt.mpr fits) ?_
  refine Leads.write .bitmap trivial (by simp) (Nat.le_add_right _ _)
    (by simp only [Area.first, Area.length]; omega) ?_
  rintro content rfl
  exact Disk.of_write_bitmap content fits

/-! Inode records -/

theorem readInodeRecord_answers {inode : Nat} (valid : inode < volume.geometry.inodeCount) :
    Answers volume (volume.readInodeRecord inode) disk (.ok (disk.record inode)) := by
  refine (Answers.except (volume.inodeOffset_of_lt valid)).bind ?_
  refine Answers.read (Area.stop_le_imageLength (.record inode) valid) ?_
  rintro content rfl
  exact (if_pos valid).symm

theorem readInodeRecord_answers_error {inode : Nat}
    (invalid : volume.geometry.inodeCount ≤ inode) :
    Answers volume (volume.readInodeRecord inode) disk
      (.error (.corrupt volume.geometry.firstInodeBlock
        (.outsideTable inode volume.geometry.inodeCount))) :=
  (Answers.except (volume.inodeOffset_of_le invalid)).bind_error

theorem writeInodeRecord_leads {inode : Nat} {record : Bytes}
    (valid : inode < volume.geometry.inodeCount) (length : record.length = recordLength) :
    Leads volume (volume.writeInodeRecord inode record) before (.ok ())
      { before with record := update before.record inode record } := by
  refine (Leads.except (volume.inodeOffset_of_lt valid)).bind ?_
  refine Leads.write (.record inode) valid (by simp) (Nat.le_refl _)
    (Nat.add_le_add_left (Nat.le_of_eq length) _) ?_
  rintro content rfl
  exact Disk.of_write_record content valid length

theorem withInode_leads {inode : Nat} {kind : LockKind} {body : Update α}
    {answer : Except FsError α} (valid : inode < volume.geometry.inodeCount)
    (leads : Leads volume body before answer after) :
    Leads volume (volume.withInode inode kind body) before answer after := by
  have range : volume.inodeRange inode =
      .ok ⟨Area.first volume.geometry (.record inode), recordLength⟩ := by
    rw [inodeRange, volume.inodeOffset_of_lt valid]
    rfl
  have bitmapEnd := volume.geometry.bitmap_le
  have minimum := volume.geometry.minimum
  have start : volume.geometry.bitmapOffset = volume.geometry.blockSize := rfl
  refine (Leads.except range).bind ?_
  refine leads.withLock ?_ (by simp [recordLength])
    (Area.stop_le_imageLength (.record inode) valid)
  simp only [Area.first]
  omega

theorem withBlock_leads {block : Nat} {kind : LockKind} {body : Update α}
    {answer : Except FsError α} (isData : volume.geometry.IsData block)
    (leads : Leads volume body before answer after) :
    Leads volume (volume.withBlock block kind body) before answer after := by
  have range : volume.dataBlockRange block =
      .ok ⟨block * volume.geometry.blockSize, volume.geometry.blockSize⟩ := by
    rw [dataBlockRange, volume.checkDataBlock_of_isData isData, blockRange,
      volume.blockOffset_of_isData isData]
    rfl
  have minimum := volume.geometry.minimum
  have dataStart := volume.geometry.two_le_dataStart
  refine (Leads.except range).bind ?_
  refine leads.withLock ?_ ?_ (volume.geometry.data_end_le isData)
  · have position := isData.1
    exact Nat.mul_pos (by omega) (by omega)
  · change 0 < volume.geometry.blockSize
    omega

/-! Links and payloads -/

theorem nextBlock_answers {block : Nat} (isData : volume.geometry.IsData block) :
    Answers volume (volume.nextBlock block) disk (.ok (disk.link block)) := by
  refine (Answers.except (volume.linkOffset_of_isData isData)).bind ?_
  refine Answers.readWord (Area.stop_le_imageLength (.link block) isData) ?_
  rintro content rfl
  exact (if_pos isData).symm

theorem writeLink_leads {block next : Nat} (isData : volume.geometry.IsData block)
    (bound : next < Limit.word64) :
    Leads volume
      (volume.device.writeWord (block * volume.geometry.blockSize + volume.geometry.payloadSize) next)
      before (.ok ()) { before with link := update before.link block next } := by
  refine Leads.write (.link block) isData (by simp) (Nat.le_refl _)
    (by simp [Area.first, Area.length]) ?_
  rintro content rfl
  exact Disk.of_write_link content isData bound

theorem linkBlock_leads {block next : Nat} (isData : volume.geometry.IsData block)
    (bound : next < Limit.word64) :
    Leads volume (volume.linkBlock block next) before (.ok ())
      { before with link := update before.link block next } :=
  (Leads.except (volume.linkOffset_of_isData isData)).bind (writeLink_leads isData bound)

theorem readPayload_answers {block start count : Nat} (isData : volume.geometry.IsData block)
    (notAnchor : block ≠ volume.geometry.anchorBlock)
    (fits : start + count ≤ volume.geometry.payloadSize) :
    Answers volume (volume.device.read (block * volume.geometry.blockSize + start) count) disk
      (.ok (((disk.payload block).drop start).take count)) := by
  have stop := Area.stop_le_imageLength (.payload block) isData
  have first : Area.first volume.geometry (.payload block) =
      block * volume.geometry.blockSize := by
    simp [Area.first, Area.reserved, notAnchor]
  have length : Area.length volume.geometry (.payload block) = volume.geometry.payloadSize := by
    simp [Area.length, Area.reserved, notAnchor]
  refine Answers.read (by omega) ?_
  rintro content rfl
  simp only [Disk.of, if_pos isData, Area.reserved, if_neg notAnchor, Bytes.zeros,
    List.replicate_zero, List.nil_append, Content.area, first, length]
  rw [show volume.geometry.payloadSize = start + (count + (volume.geometry.payloadSize - start -
    count)) by omega, Content.read_append, Content.read_append]
  simp

theorem writePayload_leads {block start : Nat} {bytes : Bytes}
    (isData : volume.geometry.IsData block) (notAnchor : block ≠ volume.geometry.anchorBlock)
    (fits : start + bytes.length ≤ volume.geometry.payloadSize) :
    Leads volume (volume.device.write (block * volume.geometry.blockSize + start) bytes) before
      (.ok ())
      { before with
        payload := update before.payload block ((before.payload block).overlay start bytes) } := by
  have first : Area.first volume.geometry (.payload block) =
      block * volume.geometry.blockSize := by
    simp [Area.first, Area.reserved, notAnchor]
  have length : Area.length volume.geometry (.payload block) = volume.geometry.payloadSize := by
    simp [Area.length, Area.reserved, notAnchor]
  refine Leads.write (.payload block) isData (by simp) (by omega) (by omega) ?_
  rintro content rfl
  exact Disk.of_write_payload content isData notAnchor fits

theorem clearBlock_leads {block next : Nat} (isData : volume.geometry.IsData block)
    (notAnchor : block ≠ volume.geometry.anchorBlock) (bound : next < Limit.word64) :
    Leads volume (volume.writeBlock block [] next) before (.ok ())
      { before with
        payload := update before.payload block (.zeros volume.geometry.payloadSize)
        link := update before.link block next } := by
  refine Leads.shown fun content shows => ?_
  have length : (before.payload block).length = volume.geometry.payloadSize := by
    rw [← shows, Disk.length_payload content isData]
  have dataEnd := volume.geometry.data_end_le isData
  have sum := volume.geometry.payloadSize_add
  refine (Leads.except (volume.checkDataBlock_of_isData isData)).bind ?_
  refine Leads.ite_neg (Nat.not_lt_zero _) ?_
  refine (Leads.except (volume.blockOffset_of_isData isData)).bind ?_
  rw [List.nil_append, List.length_nil, Nat.sub_zero,
    volume.write_append (by simp [linkLength]; omega),
    Bytes.length_zeros]
  have cleared := @writePayload_leads volume before block 0 (.zeros volume.geometry.payloadSize)
    isData notAnchor (by simp)
  rw [Bytes.overlay_zero (by rw [Bytes.length_zeros, length])] at cleared
  exact cleared.bind (writeLink_leads isData bound)

end Volume

end ImageFs
