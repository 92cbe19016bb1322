import ImageFs.Proofs.Session
import ImageFs.Proofs.Usable

/-!
Handing out blocks and taking them back on a usable file, whatever its bytes are. Main statements: both
succeed exactly when they can, do to the file what they say and nothing else, and leave it alone when
they fail; and taking back what has been handed out restores the bitmap and the free count.
-/

namespace ImageFs

open Function (update)

variable {volume : Volume} {backing final : Backing} {before : Disk} {count : Nat}
  {bits blocks : List Nat}

namespace Volume

/-! Handing out -/

theorem allocate_settles (positive : 0 < count) (hasFree : before.HasFree volume.geometry count) :
    Settles volume (volume.allocate count) before
      (.ok ((before.nextBits volume.geometry count).map volume.geometry.blockOfBit))
      (before.handOut volume.geometry (before.nextBits volume.geometry count)) := by
  rw [allocate_eq positive]
  exact (Settles.of_leads (allocateLocked_leads positive hasFree)
    fun _ => (allocateLocked_heeds count).beside).withCursor

theorem allocate_settles_error (positive : 0 < count)
    (few : ¬ before.HasFree volume.geometry count) :
    Settles volume (volume.allocate count) before (.error .noFreeBlocks) before := by
  rw [allocate_eq positive]
  exact (Settles.of_leads (allocateLocked_refuses few)
    fun _ => (allocateLocked_heeds count).beside).withCursor

/-! Taking back -/

theorem free_settles (some : blocks ≠ []) (freeable : before.Freeable volume.geometry blocks) :
    Settles volume (volume.free blocks) before (.ok ()) (before.takeBack volume.geometry blocks) := by
  rw [free_eq some]
  refine (Settles.except (checkFreeable_ok freeable.isData freeable.notAnchor)).bind ?_
  exact (Settles.of_leads (freeLocked_leads freeable)
    fun _ => (freeLocked_heeds blocks).beside).withCursor

theorem free_settles_error (some : blocks ≠ [])
    (refused : ¬ before.Freeable volume.geometry blocks) :
    ∃ block damage,
      Settles volume (volume.free blocks) before (.error (.corrupt block damage)) before := by
  rw [free_eq some]
  by_cases checked : (∀ block ∈ blocks, volume.geometry.IsData block) ∧
      volume.geometry.anchorBlock ∉ blocks
  · obtain ⟨block, damage, refuses⟩ := freeLocked_refuses checked.1 checked.2 refused
    refine ⟨block, damage, (Settles.except (checkFreeable_ok checked.1 checked.2)).bind ?_⟩
    exact (Settles.of_leads refuses fun _ => (freeLocked_heeds blocks).beside).withCursor
  · obtain ⟨block, damage, error⟩ := checkFreeable_error checked
    exact ⟨block, damage, (Settles.except error).bind_error⟩

end Volume

/-! What handing out leaves -/

/-- What handing out the blocks of the bits has done to the file. -/
structure HandedOut (volume : Volume) (backing final : Backing) (bits : List Nat) : Prop where
  usable : volume.Usable final
  free : ∀ bit ∈ bits, (FirstFit.firstUsable ≤ bit ∧ bit < volume.geometry.blocks) ∧
    Bitmap.get (backing.content.bitmap volume.geometry) bit = false
  distinct : (bits.map volume.geometry.blockOfBit).Nodup
  notAnchor : volume.geometry.anchorBlock ∉ bits.map volume.geometry.blockOfBit
  marks : ∀ bit, Bitmap.get (final.content.bitmap volume.geometry) bit =
    (Bitmap.get (backing.content.bitmap volume.geometry) bit || decide (bit ∈ bits))
  counted : (Disk.of volume.geometry final.content).counter .freeBlocks + bits.length =
    (Disk.of volume.geometry backing.content).counter .freeBlocks
  cursor : ∀ last, bits.getLast? = some last →
    (Disk.of volume.geometry final.content).counter .nextFreeBlock =
      FirstFit.successor volume.geometry.blocks last
  cleared : ∀ block ∈ bits.map volume.geometry.blockOfBit,
    final.content.payload volume.geometry block = .zeros volume.geometry.payloadSize
  walked : volume.chain ((bits.map volume.geometry.blockOfBit).headD 0) final =
    .ok (bits.map volume.geometry.blockOfBit)
  elsewhere : backing.content.SameBut volume.geometry
    ([.counter .freeBlocks, .counter .nextFreeBlock, .bitmap] ++
      (bits.map volume.geometry.blockOfBit).map .payload ++
      (bits.map volume.geometry.blockOfBit).map .link) final.content

namespace Disk

variable {geometry : Geometry} {disk : Disk}

theorem agreeOn_handOut {area : Area} (elsewhere : area ∉
    [.counter .freeBlocks, .counter .nextFreeBlock, .bitmap] ++
      (bits.map geometry.blockOfBit).map Area.payload ++
      (bits.map geometry.blockOfBit).map Area.link) :
    AgreeOn (disk.handOut geometry bits) disk area := by
  simp only [List.mem_append, List.mem_cons, List.not_mem_nil, or_false, not_or] at elsewhere
  obtain ⟨⟨⟨notFree, notCursor, notBitmap⟩, notPayload⟩, notLink⟩ := elsewhere
  cases area with
  | counter which =>
      have isFree : which ≠ .freeBlocks := fun same => notFree (congrArg Area.counter same)
      have isCursor : which ≠ .nextFreeBlock := fun same => notCursor (congrArg Area.counter same)
      exact (Function.update_of_ne isCursor ..).trans (Function.update_of_ne isFree ..)
  | bitmap => exact absurd rfl notBitmap
  | holders => trivial
  | record inode => rfl
  | payload block => exact if_neg fun member => notPayload (List.mem_map_of_mem member)
  | link block => exact relink_of_notMem fun member => notLink (List.mem_map_of_mem member)

theorem agreeOn_takeBack {area : Area}
    (elsewhere : area ∉ [.counter .freeBlocks, .bitmap] ++ blocks.map Area.link) :
    AgreeOn (disk.takeBack geometry blocks) disk area := by
  simp only [List.mem_append, List.mem_cons, List.not_mem_nil, or_false, not_or] at elsewhere
  obtain ⟨⟨notFree, notBitmap⟩, notLink⟩ := elsewhere
  cases area with
  | counter which =>
      exact Function.update_of_ne (fun same => notFree (congrArg Area.counter same)) ..
  | bitmap => exact absurd rfl notBitmap
  | holders => trivial
  | record inode => rfl
  | payload block => rfl
  | link block => exact if_neg fun member => notLink (List.mem_map_of_mem member)

end Disk

/-- A list that is linked on the disk is found by walking the file. -/
theorem Volume.chain_of_linked (usable : volume.Usable final)
    (isData : ∀ block ∈ blocks, volume.geometry.IsData block) (nodup : blocks.Nodup)
    (linked : Linked (Disk.of volume.geometry final.content).link blocks) :
    volume.chain (blocks.headD 0) final = .ok blocks :=
  (Volume.chain_answers isData nodup linked).of_usable (Volume.chain_blind _) usable

theorem Disk.HasFree.handedOut (hasFree : before.HasFree volume.geometry count)
    (shows : Disk.of volume.geometry backing.content = before)
    (becomes : backing.Becomes volume final
      (before.handOut volume.geometry (before.nextBits volume.geometry count))) :
    HandedOut volume backing final (before.nextBits volume.geometry count) := by
  have bitmap : backing.content.bitmap volume.geometry = before.bitmap :=
    congrArg Disk.bitmap shows
  have length : before.bitmap.length = volume.geometry.bitmapLength := by
    rw [← shows, Disk.length_bitmap]
  have isData := @Disk.isData_of_nextBits volume.geometry before count
  have notAnchor := @Disk.anchorBlock_notMem_nextBits volume.geometry before count
  have nodup := @Disk.nodup_blocks_of_nextBits volume.geometry before count
  have shows' := becomes.shows
  refine ⟨becomes.usable, ?_, nodup, notAnchor, ?_, ?_, ?_, ?_, ?_, ?_⟩
  · rw [bitmap]
    exact fun bit member => Disk.nextBits_usable member
  · intro bit
    rw [bitmap, ← Bitmap.get_setAll (Disk.nextBits_covered length)]
    exact congrArg (fun disk => Bitmap.get disk.bitmap bit) shows'
  · have counted := hasFree.counted
    rw [shows, shows', Disk.handOut_freeBlocks, hasFree.length_nextBits]
    omega
  · intro last isLast
    rw [shows', Disk.handOut_nextFreeBlock, FirstFit.cursorBehind, isLast]
    rfl
  · intro block member
    rw [← Content.payload_of_isData (isData block member) (ne_of_mem_of_not_mem member notAnchor),
      shows']
    exact if_pos member
  · refine Volume.chain_of_linked becomes.usable isData nodup ?_
    rw [shows']
    exact linked_relink nodup
  · refine Disk.sameBut becomes.size becomes.holders (by rw [shows, shows']; rfl)
      fun area notTouched => ?_
    rw [shows, shows']
    exact Disk.agreeOn_handOut notTouched

/-- A file of zeros but for a free count of one: no bit is set, not even the anchor's. -/
def scarce : Backing where
  content := (Content.empty.resize Session.smallest.imageLength).write Superblock.freeBlocksOffset
    (.ofNat 8 1)
  locks := []

theorem scarce_usable : (Session.smallest.volume 0).Usable scarce where
  long := by decide +kernel
  addressable := by decide
  unhindered := rfl

theorem scarce_hasFree : (Disk.of (Session.smallest.volume 0).geometry scarce.content).HasFree
    (Session.smallest.volume 0).geometry 1 where
  counted := by decide +kernel
  clear := by decide +kernel

theorem scarce_nextBits : (Disk.of (Session.smallest.volume 0).geometry scarce.content).nextBits
    (Session.smallest.volume 0).geometry 1 = [1] := by
  decide +kernel

/-- The blocks of the first clear bits in the round from the cursor are handed out, all of them or none. -/
theorem Volume.allocate_exact (usable : volume.Usable backing) (positive : 0 < count) :
    let disk := Disk.of volume.geometry backing.content
    let bits := disk.nextBits volume.geometry count
    (disk.HasFree volume.geometry count → bits.length = count ∧
      ∃ final, volume.allocate count backing =
          (.ok (bits.map volume.geometry.blockOfBit), final) ∧
        HandedOut volume backing final bits) ∧
    (¬ disk.HasFree volume.geometry count →
      ∃ final, volume.allocate count backing = (.error (.failed .noFreeBlocks), final) ∧
        final.content = backing.content) := by
  intro disk bits
  refine ⟨fun hasFree => ⟨hasFree.length_nextBits, ?_⟩, fun few => ?_⟩
  · obtain ⟨final, ends, becomes⟩ := allocate_settles positive hasFree backing usable rfl
    exact ⟨final, ends, hasFree.handedOut rfl becomes⟩
  · obtain ⟨final, ends, becomes⟩ := allocate_settles_error positive few backing usable rfl
    exact ⟨final, ends, becomes.content_eq_of_same⟩

theorem Volume.allocate_exact_scarce :
    (Session.smallest.volume 0).Usable scarce ∧ 0 < 1 ∧ 0 < 2 ∧
    (∃ final, (Session.smallest.volume 0).allocate 1 scarce =
        (.ok [Session.smallest.blockOfBit 1], final) ∧
      HandedOut (Session.smallest.volume 0) scarce final [1]) ∧
    ∃ final, (Session.smallest.volume 0).allocate 2 scarce =
        (.error (.failed .noFreeBlocks), final) ∧ final.content = scarce.content := by
  have one := allocate_exact scarce_usable (show 0 < 1 by decide)
  have two := allocate_exact scarce_usable (show 0 < 2 by decide)
  have few : ¬ (Disk.of Session.smallest scarce.content).HasFree Session.smallest 2 :=
    fun hasFree => absurd hasFree.counted (by decide +kernel)
  obtain ⟨-, final, ends, handedOut⟩ := one.1 scarce_hasFree
  refine ⟨scarce_usable, by decide, by decide, ⟨final, ?_, ?_⟩, two.2 few⟩
  · rw [ends, scarce_nextBits]
    rfl
  · rwa [scarce_nextBits] at handedOut

/-! What taking back leaves -/

/-- What taking the blocks back has done to the file. -/
structure TakenBack (volume : Volume) (backing final : Backing) (blocks : List Nat) : Prop where
  usable : volume.Usable final
  marks : ∀ bit, Bitmap.get (final.content.bitmap volume.geometry) bit =
    (Bitmap.get (backing.content.bitmap volume.geometry) bit &&
      !decide (volume.geometry.blockOfBit bit ∈ blocks))
  counted : (Disk.of volume.geometry final.content).counter .freeBlocks =
    (Disk.of volume.geometry backing.content).counter .freeBlocks + blocks.length
  unlinked : ∀ block ∈ blocks, final.content.next volume.geometry block = 0
  elsewhere : backing.content.SameBut volume.geometry
    ([.counter .freeBlocks, .bitmap] ++ blocks.map .link) final.content

theorem Disk.Freeable.takenBack (freeable : before.Freeable volume.geometry blocks)
    (shows : Disk.of volume.geometry backing.content = before)
    (becomes : backing.Becomes volume final (before.takeBack volume.geometry blocks)) :
    TakenBack volume backing final blocks := by
  have bitmap : backing.content.bitmap volume.geometry = before.bitmap :=
    congrArg Disk.bitmap shows
  have shows' := becomes.shows
  refine ⟨becomes.usable, ?_, by rw [shows, shows', Disk.takeBack_freeBlocks], ?_, ?_⟩
  · intro bit
    have cleared := Bitmap.get_clearAll (volume.geometry.bitsOf blocks) before.bitmap bit
    simp only [Geometry.mem_bitsOf freeable.isData] at cleared
    rw [bitmap, ← cleared]
    exact congrArg (fun disk => Bitmap.get disk.bitmap bit) shows'
  · intro block member
    rw [← Content.link_of_isData (freeable.isData block member), shows']
    exact if_pos member
  · refine Disk.sameBut becomes.size becomes.holders (by rw [shows, shows']; rfl)
      fun area notTouched => ?_
    rw [shows, shows']
    exact Disk.agreeOn_takeBack notTouched

namespace Disk

variable {geometry : Geometry} {disk : Disk}

/-- What has just been handed out can be taken back, unless the free count was too high. -/
theorem HasFree.freeable (hasFree : disk.HasFree geometry count)
    (length : disk.bitmap.length = geometry.bitmapLength)
    (room : disk.counter .freeBlocks < geometry.blocks) :
    (disk.handOut geometry (disk.nextBits geometry count)).Freeable geometry
      ((disk.nextBits geometry count).map geometry.blockOfBit) where
  isData := isData_of_nextBits
  notAnchor := anchorBlock_notMem_nextBits
  nodup := nodup_blocks_of_nextBits count
  marked block member := by
    obtain ⟨bit, isBit, rfl⟩ := List.mem_map.mp member
    have covered := @nextBits_covered geometry disk count length
    rw [Geometry.blockOfBit, Nat.add_sub_cancel_left]
    refine (Bitmap.get_setAll covered bit).trans ?_
    rw [decide_eq_true isBit, Bool.or_true]
  room := by
    have counted := hasFree.counted
    rw [handOut_freeBlocks, List.length_map, hasFree.length_nextBits]
    omega

theorem takeBack_handOut_bitmap (length : disk.bitmap.length = geometry.bitmapLength) :
    ((disk.handOut geometry (disk.nextBits geometry count)).takeBack geometry
      ((disk.nextBits geometry count).map geometry.blockOfBit)).bitmap = disk.bitmap := by
  simp only [takeBack, handOut, Geometry.bitsOf_map_blockOfBit]
  exact Bitmap.clearAll_setAll (nextBits_covered length) fun bit member => (nextBits_usable member).2

theorem HasFree.takeBack_handOut_freeBlocks (hasFree : disk.HasFree geometry count) :
    ((disk.handOut geometry (disk.nextBits geometry count)).takeBack geometry
      ((disk.nextBits geometry count).map geometry.blockOfBit)).counter .freeBlocks =
        disk.counter .freeBlocks := by
  have counted := hasFree.counted
  rw [takeBack_freeBlocks, handOut_freeBlocks, List.length_map, hasFree.length_nextBits]
  omega

end Disk

/-- Taking back what has been handed out gives the bitmap and the free count back. -/
theorem Volume.free_of_allocate {middle : Backing} (usable : volume.Usable backing)
    (shows : Disk.of volume.geometry backing.content = before)
    (room : before.counter .freeBlocks < volume.geometry.blocks)
    (allocated : volume.allocate count backing = (.ok blocks, middle)) :
    ∃ final, volume.free blocks middle = (.ok (), final) ∧
      (Disk.of volume.geometry final.content).bitmap = before.bitmap ∧
      (Disk.of volume.geometry final.content).counter .freeBlocks =
        before.counter .freeBlocks := by
  have length : before.bitmap.length = volume.geometry.bitmapLength := by
    rw [← shows, Disk.length_bitmap]
  rcases Nat.eq_zero_or_pos count with rfl | positive
  · have nothing : volume.allocate 0 backing = (.ok [], backing) := rfl
    rw [nothing] at allocated
    cases allocated
    exact ⟨backing, rfl, by rw [shows], by rw [shows]⟩
  by_cases hasFree : before.HasFree volume.geometry count
  · obtain ⟨middle', ends, becomes⟩ := allocate_settles positive hasFree backing usable shows
    rw [ends] at allocated
    cases allocated
    have some : (before.nextBits volume.geometry count).map volume.geometry.blockOfBit ≠ [] :=
      List.ne_nil_of_length_pos (by rwa [List.length_map, hasFree.length_nextBits])
    obtain ⟨final, ends', becomes'⟩ := free_settles some (hasFree.freeable length room) middle
      becomes.usable becomes.shows
    refine ⟨final, ends', ?_, ?_⟩
    · rw [becomes'.shows, Disk.takeBack_handOut_bitmap length]
    · rw [becomes'.shows, hasFree.takeBack_handOut_freeBlocks]
  · obtain ⟨final, ends, -⟩ := allocate_settles_error positive hasFree backing usable shows
    rw [ends] at allocated
    cases allocated

/-- Blocks are taken back together or not at all. -/
theorem Volume.free_exact (usable : volume.Usable backing) :
    let disk := Disk.of volume.geometry backing.content
    (∀ blocks, blocks ≠ [] →
      (disk.Freeable volume.geometry blocks →
        ∃ final, volume.free blocks backing = (.ok (), final) ∧
          TakenBack volume backing final blocks) ∧
      (¬ disk.Freeable volume.geometry blocks →
        ∃ block damage final,
          volume.free blocks backing = (.error (.failed (.corrupt block damage)), final) ∧
            final.content = backing.content)) ∧
    (disk.counter .freeBlocks < volume.geometry.blocks →
      ∀ count blocks middle, volume.allocate count backing = (.ok blocks, middle) →
        ∃ final, volume.free blocks middle = (.ok (), final) ∧
          (Disk.of volume.geometry final.content).bitmap = disk.bitmap ∧
          (Disk.of volume.geometry final.content).counter .freeBlocks = disk.counter .freeBlocks) := by
  intro disk
  refine ⟨fun blocks some => ⟨fun freeable => ?_, fun refused => ?_⟩, ?_⟩
  · obtain ⟨final, ends, becomes⟩ := free_settles some freeable backing usable rfl
    exact ⟨final, ends, freeable.takenBack rfl becomes⟩
  · obtain ⟨block, damage, refuses⟩ := free_settles_error some refused
    obtain ⟨final, ends, becomes⟩ := refuses backing usable rfl
    exact ⟨block, damage, final, ends, becomes.content_eq_of_same⟩
  · exact fun room count blocks middle allocated => free_of_allocate usable rfl room allocated

theorem Volume.free_exact_scarce :
    (Session.smallest.volume 0).Usable scarce ∧
    (∃ block damage final,
      (Session.smallest.volume 0).free [Session.smallest.blockOfBit 1] scarce =
          (.error (.failed (.corrupt block damage)), final) ∧
        final.content = scarce.content) ∧
    ∃ middle final,
      (Session.smallest.volume 0).allocate 1 scarce =
          (.ok [Session.smallest.blockOfBit 1], middle) ∧
        (Session.smallest.volume 0).free [Session.smallest.blockOfBit 1] middle = (.ok (), final) ∧
        (Disk.of Session.smallest final.content).bitmap = [0] ∧
        (Disk.of Session.smallest final.content).counter .freeBlocks = 1 := by
  obtain ⟨exact, restores⟩ := free_exact scarce_usable
  have unmarked : ¬ (Disk.of Session.smallest scarce.content).Freeable Session.smallest
      [Session.smallest.blockOfBit 1] :=
    fun freeable => absurd (freeable.marked _ (List.mem_singleton.mpr rfl)) (by decide +kernel)
  obtain ⟨middle, ends, -⟩ := allocate_settles (show 0 < 1 by decide) scarce_hasFree scarce
    scarce_usable rfl
  rw [scarce_nextBits] at ends
  obtain ⟨final, ends', bitmap, free⟩ := restores (by decide +kernel) 1 _ middle ends
  refine ⟨scarce_usable, (exact _ (List.cons_ne_nil _ _)).2 unmarked, middle, final, ends, ends', ?_, ?_⟩
  · exact bitmap.trans (by decide +kernel)
  · exact free.trans (by decide +kernel)

end ImageFs
