import ImageFs.Proofs.Rounds
import ImageFs.Proofs.Stream

/-!
The turnover of data blocks on a disk whose bitmap and counters may be anything. Main statements: handing
out takes the clear bits that a round from the cursor meets first, taking back accepts exactly the
blocks that can be freed together, and what is refused leaves the disk alone.
-/

namespace ImageFs

open Function (update)

/-! Blocks and their bits -/

namespace Geometry

variable (geometry : Geometry)

theorem isData_blockOfBit {bit : Nat} (inside : bit < geometry.blocks) :
    geometry.IsData (geometry.blockOfBit bit) := by
  rw [IsData, totalBlocks_eq, blockOfBit]
  omega

theorem bit_lt_of_isData {block : Nat} (isData : geometry.IsData block) :
    block - geometry.dataStart < geometry.blocks := by
  rw [IsData, totalBlocks_eq] at isData
  omega

theorem blockOfBit_sub {block : Nat} (isData : geometry.IsData block) :
    geometry.blockOfBit (block - geometry.dataStart) = block := by
  rw [IsData] at isData
  rw [blockOfBit]
  omega

theorem blockOfBit_injective : Function.Injective geometry.blockOfBit := by
  intro first second equal
  rw [blockOfBit, blockOfBit] at equal
  omega

theorem mem_map_blockOfBit {bits : List Nat} {bit : Nat} :
    geometry.blockOfBit bit ∈ bits.map geometry.blockOfBit ↔ bit ∈ bits :=
  List.mem_map_of_injective geometry.blockOfBit_injective

theorem blocks_lt_word64 : geometry.blocks < Limit.word64 := by
  have addressable := geometry.lt_word64_of_isData
    (geometry.isData_blockOfBit (Nat.sub_lt geometry.blocks_pos Nat.one_pos))
  have start := geometry.two_le_dataStart
  rw [blockOfBit] at addressable
  omega

theorem blocks_le_bitmap : geometry.blocks ≤ 8 * geometry.bitmapLength := by
  rw [Nat.mul_comm]
  exact le_ceilDiv_mul (by decide) geometry.blocks

def bitsOf (blocks : List Nat) : List Nat :=
  blocks.map (· - geometry.dataStart)

variable {geometry}

theorem nodup_bitsOf {blocks : List Nat} (isData : ∀ block ∈ blocks, geometry.IsData block)
    (nodup : blocks.Nodup) : (geometry.bitsOf blocks).Nodup := by
  refine nodup.map_on fun first inFirst second inSecond same => ?_
  have behind := (isData first inFirst).1
  have behind' := (isData second inSecond).1
  omega

theorem mem_bitsOf {blocks : List Nat} (isData : ∀ block ∈ blocks, geometry.IsData block)
    (bit : Nat) : bit ∈ geometry.bitsOf blocks ↔ geometry.blockOfBit bit ∈ blocks := by
  rw [bitsOf, List.mem_map]
  constructor
  · rintro ⟨block, member, rfl⟩
    rwa [geometry.blockOfBit_sub (isData block member)]
  · intro member
    exact ⟨_, member, Nat.add_sub_cancel_left ..⟩

theorem bitsOf_map_blockOfBit (bits : List Nat) :
    geometry.bitsOf (bits.map geometry.blockOfBit) = bits := by
  rw [bitsOf, List.map_map]
  exact (List.map_congr_left fun bit _ => Nat.add_sub_cancel_left ..).trans (List.map_id bits)

end Geometry

/-! The disks that handing out and taking back leave -/

namespace Disk

variable (geometry : Geometry)

theorem length_bitmap (content : Content) :
    (of geometry content).bitmap.length = geometry.bitmapLength :=
  length_area ..

theorem counter_lt (content : Content) (which : Counter) :
    (of geometry content).counter which < Limit.word64 := by
  have bound := Bytes.toNat_lt (content.area geometry (.counter which))
  rwa [length_area] at bound

variable (disk : Disk)

/-- The bits of the blocks that are next in turn. -/
def nextBits (count : Nat) : List Nat :=
  (FirstFit.offers disk.bitmap geometry.blocks (disk.counter .nextFreeBlock)).take count

/-- The free count and the bitmap both have so many free blocks. -/
structure HasFree (count : Nat) : Prop where
  counted : count ≤ disk.counter .freeBlocks
  clear : count ≤ FirstFit.clearUsable disk.bitmap geometry.blocks

def handOut (bits : List Nat) : Disk :=
  { disk with
    counter := update (update disk.counter .freeBlocks (disk.counter .freeBlocks - bits.length))
      .nextFreeBlock
      (FirstFit.cursorBehind geometry.blocks (disk.counter .nextFreeBlock) bits)
    bitmap := bits.foldl Bitmap.set disk.bitmap
    payload := fun block =>
      if block ∈ bits.map geometry.blockOfBit then .zeros geometry.payloadSize
      else disk.payload block
    link := relink disk.link (bits.map geometry.blockOfBit) }

/-- Blocks that can be taken back together. -/
structure Freeable (blocks : List Nat) : Prop where
  isData : ∀ block ∈ blocks, geometry.IsData block
  notAnchor : geometry.anchorBlock ∉ blocks
  nodup : blocks.Nodup
  marked : ∀ block ∈ blocks, Bitmap.get disk.bitmap (block - geometry.dataStart) = true
  room : disk.counter .freeBlocks + blocks.length < geometry.blocks

def takeBack (blocks : List Nat) : Disk :=
  { disk with
    counter := update disk.counter .freeBlocks (disk.counter .freeBlocks + blocks.length)
    bitmap := (geometry.bitsOf blocks).foldl Bitmap.clear disk.bitmap
    link := fun block => if block ∈ blocks then 0 else disk.link block }

/-- Fresh blocks are handed out and linked behind a chain. -/
def extend (chain bits : List Nat) : Disk :=
  let fresh := disk.handOut geometry bits
  { fresh with link := relinkLast fresh.link chain ((bits.map geometry.blockOfBit).headD 0) }

/-- A chain is cut behind its first blocks, and the others are taken back. -/
def cut (chain : List Nat) (kept : Nat) : Disk :=
  takeBack geometry { disk with link := relinkLast disk.link (chain.take kept) 0 } (chain.drop kept)

variable {geometry disk} {count : Nat}

@[simp] theorem handOut_freeBlocks {bits : List Nat} :
    (disk.handOut geometry bits).counter .freeBlocks = disk.counter .freeBlocks - bits.length := by
  simp [handOut]

@[simp] theorem handOut_nextFreeBlock {bits : List Nat} :
    (disk.handOut geometry bits).counter .nextFreeBlock =
      FirstFit.cursorBehind geometry.blocks (disk.counter .nextFreeBlock) bits := by
  simp [handOut]

@[simp] theorem takeBack_freeBlocks {blocks : List Nat} :
    (disk.takeBack geometry blocks).counter .freeBlocks =
      disk.counter .freeBlocks + blocks.length := by
  simp [takeBack]

theorem nextBits_usable {bit : Nat} (member : bit ∈ disk.nextBits geometry count) :
    (FirstFit.firstUsable ≤ bit ∧ bit < geometry.blocks) ∧ Bitmap.get disk.bitmap bit = false :=
  FirstFit.mem_offers.mp (List.mem_of_mem_take member)

theorem nextBits_covered (length : disk.bitmap.length = geometry.bitmapLength) :
    ∀ bit ∈ disk.nextBits geometry count, bit < 8 * disk.bitmap.length := by
  intro bit member
  rw [length]
  exact Nat.lt_of_lt_of_le (nextBits_usable member).1.2 geometry.blocks_le_bitmap

theorem nodup_nextBits (count : Nat) : (disk.nextBits geometry count).Nodup :=
  (FirstFit.nodup_offers ..).sublist (List.take_sublist ..)

theorem HasFree.length_nextBits (hasFree : disk.HasFree geometry count) :
    (disk.nextBits geometry count).length = count := by
  rw [nextBits, List.length_take, FirstFit.length_offers, Nat.min_eq_left hasFree.clear]

theorem HasFree.two_le_blocks (hasFree : disk.HasFree geometry count) (positive : 0 < count) :
    1 < geometry.blocks := by
  have clear := Nat.le_trans hasFree.clear (FirstFit.clearUsable_le disk.bitmap geometry.blocks)
  have first : FirstFit.firstUsable = 1 := rfl
  omega

theorem isData_of_nextBits :
    ∀ block ∈ (disk.nextBits geometry count).map geometry.blockOfBit, geometry.IsData block := by
  intro block member
  obtain ⟨bit, isBit, rfl⟩ := List.mem_map.mp member
  exact geometry.isData_blockOfBit (nextBits_usable isBit).1.2

theorem anchorBlock_notMem_nextBits :
    geometry.anchorBlock ∉ (disk.nextBits geometry count).map geometry.blockOfBit := by
  intro member
  have isBit := geometry.mem_map_blockOfBit.mp (show geometry.blockOfBit 0 ∈ _ from member)
  exact absurd (nextBits_usable isBit).1.1 (by decide)

theorem nodup_blocks_of_nextBits (count : Nat) :
    ((disk.nextBits geometry count).map geometry.blockOfBit).Nodup :=
  (nodup_nextBits count).map geometry.blockOfBit_injective

/-! The disk behind a longer chain -/

section Extend

variable {chain bits : List Nat}

/-- With no blocks handed out nothing changes. -/
theorem extend_nil (linked : Linked disk.link chain) : disk.extend geometry chain [] = disk := by
  have cursor : FirstFit.cursorBehind geometry.blocks (disk.counter .nextFreeBlock) [] =
      disk.counter .nextFreeBlock := rfl
  unfold extend handOut
  ext1 <;> simp [cursor, relink, linked.relinkLast_eq]

theorem link_extend_of_notMem {block : Nat}
    (notMember : block ∉ chain ++ bits.map geometry.blockOfBit) :
    (disk.extend geometry chain bits).link block = disk.link block := by
  rw [List.mem_append, not_or] at notMember
  exact (relinkLast_of_notMem notMember.1).trans (relink_of_notMem notMember.2)

theorem payload_extend_of_notMem {block : Nat}
    (notMember : block ∉ chain ++ bits.map geometry.blockOfBit) :
    (disk.extend geometry chain bits).payload block = disk.payload block :=
  if_neg fun isFresh => notMember (List.mem_append_right _ isFresh)

theorem linked_extend (linked : Linked disk.link chain)
    (nodup : (chain ++ bits.map geometry.blockOfBit).Nodup) :
    Linked (disk.extend geometry chain bits).link (chain ++ bits.map geometry.blockOfBit) := by
  obtain ⟨old, new, apart⟩ := List.nodup_append.mp nodup
  have oldLinked : Linked (disk.handOut geometry bits).link (chain ++ []) := by
    rw [List.append_nil]
    exact linked.congr fun block member =>
      relink_of_notMem fun isFresh => apart block member block isFresh rfl
  exact oldLinked.join (linked_relink new) old
    fun block isFresh member => apart block member block isFresh rfl

theorem length_extend 
    (lengths : ∀ block ∈ chain, (disk.payload block).length = geometry.payloadSize) :
    ∀ block ∈ chain ++ bits.map geometry.blockOfBit,
      ((disk.extend geometry chain bits).payload block).length = geometry.payloadSize := by
  intro block member
  simp only [extend, handOut]
  split
  · exact Bytes.length_zeros _
  · next old => exact lengths block ((List.mem_append.mp member).resolve_right old)

/-- The stream of a longer chain goes on with zeros. -/
theorem stream_extend (nodup : (chain ++ bits.map geometry.blockOfBit).Nodup) :
    (disk.extend geometry chain bits).stream (chain ++ bits.map geometry.blockOfBit) =
      disk.stream chain ++ .zeros (bits.length * geometry.payloadSize) := by
  obtain ⟨-, -, apart⟩ := List.nodup_append.mp nodup
  have old : (disk.extend geometry chain bits).stream chain = disk.stream chain :=
    stream_congr fun block member => if_neg fun isFresh => apart block member block isFresh rfl
  have new : (disk.extend geometry chain bits).stream (bits.map geometry.blockOfBit) =
      .zeros ((bits.map geometry.blockOfBit).length * geometry.payloadSize) :=
    stream_of_cleared fun block member => if_pos member
  rw [List.length_map] at new
  rw [← old, ← new, stream, stream, stream, List.flatMap_append]

end Extend

end Disk

variable {volume : Volume} {before after : Disk}

namespace Volume

/-! Writing the bitmap -/

theorem withCursor_leads {α : Type} {body : Update α} {answer : Except FsError α}
    (leads : Leads volume body before answer after) :
    Leads volume (volume.withCursor body) before answer after :=
  leads.withLock (by decide) (by decide)
    (Area.stop_le_imageLength (.counter .nextFreeBlock) trivial)

/-- Writing the bytes from the lowest to the highest changed bit writes the whole bitmap. -/
theorem writeTouched_leads {bits : List Nat} {bitmap : Bytes}
    (inside : ∀ bit ∈ bits, bit < volume.geometry.blocks)
    (length : before.bitmap.length = volume.geometry.bitmapLength)
    (length' : bitmap.length = before.bitmap.length)
    (apart : ∀ index, (∀ bit ∈ bits, bit / 8 ≠ index) → bitmap[index]? = before.bitmap[index]?) :
    Leads volume (volume.writeTouched bits bitmap) before (.ok ()) { before with bitmap } := by
  rw [writeTouched]
  split
  · next low high isLow isHigh =>
    have lowest := (List.min?_eq_some_iff.mp isLow).2
    have highest := (List.max?_eq_some_iff.mp isHigh).2
    have highInside := inside high (List.max?_eq_some_iff.mp isHigh).1
    have covered := volume.geometry.blocks_le_bitmap
    have ordered : low ≤ high := lowest high (List.max?_eq_some_iff.mp isHigh).1
    have patch : ((bitmap.take (high / 8 + 1)).drop (low / 8)).length =
        high / 8 + 1 - low / 8 := by
      rw [List.length_drop, List.length_take]
      omega
    have whole : before.bitmap.overlay (low / 8) ((bitmap.take (high / 8 + 1)).drop (low / 8)) =
        bitmap := by
      apply List.ext_getElem?
      intro index
      rw [Bytes.getElem?_overlay _ (by omega), patch]
      split
      · next touched =>
        rw [List.getElem?_drop, List.getElem?_take_of_lt (by omega)]
        congr 1
        omega
      · next untouched =>
        refine (apart index fun bit member => ?_).symm
        have above := lowest bit member
        have below := highest bit member
        omega
    have written := @writeBitmap_leads volume before (low / 8)
      ((bitmap.take (high / 8 + 1)).drop (low / 8)) (by omega)
    rwa [whole] at written
  · next none =>
    have empty : bits = [] := by
      cases bits with
      | nil => rfl
      | cons bit rest => exact (none _ _ rfl rfl).elim
    subst empty
    have same : bitmap = before.bitmap := List.ext_getElem? fun index => apart index (by simp)
    subst same
    exact .pure ()

/-! Handing out -/

/-- Handing out blocks while the cursor is locked. -/
def allocateLocked (volume : Volume) (count : Nat) : Update (List Nat) := do
  let free ← volume.freeBlockCount
  if free < count then throw .noFreeBlocks
  let cursor ← volume.readCounter Superblock.nextFreeBlockOffset
  let bitmap ← volume.readBitmap
  match FirstFit.choose bitmap volume.geometry.blocks cursor count with
  | none => throw .noFreeBlocks
  | some choice =>
      volume.writeTouched choice.bits (choice.bits.foldl Bitmap.set bitmap)
      volume.writeCounter Superblock.freeBlocksOffset (free - count)
      volume.writeCounter Superblock.nextFreeBlockOffset choice.cursor
      let blocks := choice.bits.map volume.geometry.blockOfBit
      volume.linkFresh blocks
      return blocks

theorem allocate_eq {count : Nat} (positive : 0 < count) :
    volume.allocate count = volume.withCursor (volume.allocateLocked count) :=
  if_neg (Nat.ne_of_gt positive)

theorem allocateLocked_leads {count : Nat} (positive : 0 < count)
    (hasFree : before.HasFree volume.geometry count) :
    Leads volume (volume.allocateLocked count) before
      (.ok ((before.nextBits volume.geometry count).map volume.geometry.blockOfBit))
      (before.handOut volume.geometry (before.nextBits volume.geometry count)) := by
  refine Leads.shown fun content shows => ?_
  have length : before.bitmap.length = volume.geometry.bitmapLength := by
    rw [← shows, Disk.length_bitmap]
  have counter := Disk.counter_lt volume.geometry content .freeBlocks
  rw [shows] at counter
  have some : before.nextBits volume.geometry count ≠ [] :=
    List.ne_nil_of_length_pos (by rwa [hasFree.length_nextBits])
  have cursor := @FirstFit.cursorBehind_usable _ (before.counter .nextFreeBlock) _
    (hasFree.two_le_blocks positive) some
  have addressable := volume.geometry.blocks_lt_word64
  refine (Leads.query (readCounter_answers .freeBlocks)).bind ?_
  refine Leads.ite_neg (Nat.not_lt.mpr hasFree.counted) ?_
  refine (Leads.query (readCounter_answers .nextFreeBlock)).bind ?_
  refine (Leads.query readBitmap_answers).bind ?_
  rw [FirstFit.choose_eq, if_neg (Nat.not_lt.mpr hasFree.clear)]
  refine (writeTouched_leads (fun bit member => (Disk.nextBits_usable member).1.2) length
    (Bitmap.length_setAll _ _) fun index => Bitmap.getElem?_setAll).bind ?_
  refine (writeCounter_leads .freeBlocks (by omega)).bind ?_
  refine (writeCounter_leads .nextFreeBlock (Nat.lt_trans cursor.2 addressable)).bind ?_
  refine (linkFresh_leads Disk.isData_of_nextBits Disk.anchorBlock_notMem_nextBits).bind ?_
  rw [Disk.handOut, hasFree.length_nextBits]
  exact .pure _

theorem allocateLocked_refuses {count : Nat} (few : ¬ before.HasFree volume.geometry count) :
    Leads volume (volume.allocateLocked count) before (.error .noFreeBlocks) before := by
  refine (Leads.query (readCounter_answers .freeBlocks)).bind ?_
  by_cases counted : before.counter .freeBlocks < count
  · exact Leads.ite_pos counted (Leads.throw _).bind_error
  · have clear : FirstFit.clearUsable before.bitmap volume.geometry.blocks < count :=
      Nat.lt_of_not_le fun clear => few ⟨Nat.not_lt.mp counted, clear⟩
    refine Leads.ite_neg counted ?_
    refine (Leads.query (readCounter_answers .nextFreeBlock)).bind ?_
    refine (Leads.query readBitmap_answers).bind ?_
    rw [FirstFit.choose_eq, if_pos clear]
    exact .throw _

/-! Taking back -/

theorem checkFreeable_ok {blocks : List Nat}
    (isData : ∀ block ∈ blocks, volume.geometry.IsData block)
    (notAnchor : volume.geometry.anchorBlock ∉ blocks) : volume.checkFreeable blocks = .ok () := by
  induction blocks with
  | nil => rfl
  | cons block rest induction =>
      have here := isData block List.mem_cons_self
      have different : block ≠ volume.geometry.anchorBlock := fun same => notAnchor (by simp [same])
      have usable : ¬ block - volume.geometry.dataStart < FirstFit.firstUsable := by
        have behind := here.1
        rw [Geometry.anchorBlock] at different
        rw [FirstFit.firstUsable]
        omega
      rw [checkFreeable, volume.checkDataBlock_of_isData here]
      change (if _ then _ else _) = _
      rw [if_neg usable]
      exact induction (fun other member => isData other (List.mem_cons_of_mem _ member))
        fun member => notAnchor (List.mem_cons_of_mem _ member)

theorem checkFreeable_error {blocks : List Nat}
    (refused : ¬ ((∀ block ∈ blocks, volume.geometry.IsData block) ∧
      volume.geometry.anchorBlock ∉ blocks)) :
    ∃ block damage, volume.checkFreeable blocks = .error (.corrupt block damage) := by
  induction blocks with
  | nil => exact absurd ⟨by simp, by simp⟩ refused
  | cons block rest induction =>
      rw [checkFreeable]
      by_cases here : volume.geometry.IsData block
      · rw [volume.checkDataBlock_of_isData here]
        change ∃ _ _, (if block - volume.geometry.dataStart < FirstFit.firstUsable then _ else _) = _
        split
        · exact ⟨_, _, rfl⟩
        · next usable =>
          refine induction fun ⟨isData, notAnchor⟩ => refused ⟨?_, ?_⟩
          · exact List.forall_mem_cons.mpr ⟨here, isData⟩
          · refine List.not_mem_cons_of_ne_of_not_mem (fun same => usable ?_) notAnchor
            rw [← same, Geometry.anchorBlock, Nat.sub_self]
            exact Nat.one_pos
      · rw [volume.checkDataBlock_of_not_isData here]
        exact ⟨_, _, rfl⟩

theorem clearBits_ok {blocks : List Nat} {bitmap : Bytes}
    (isData : ∀ block ∈ blocks, volume.geometry.IsData block) (nodup : blocks.Nodup)
    (marked : ∀ block ∈ blocks, Bitmap.get bitmap (block - volume.geometry.dataStart) = true) :
    volume.clearBits bitmap blocks =
      .ok ((volume.geometry.bitsOf blocks).foldl Bitmap.clear bitmap) := by
  induction blocks generalizing bitmap with
  | nil => rfl
  | cons block rest induction =>
      obtain ⟨notMember, nodup⟩ := List.nodup_cons.mp nodup
      rw [clearBits, if_pos (marked block List.mem_cons_self)]
      refine induction (fun other member => isData other (List.mem_cons_of_mem _ member)) nodup ?_
      intro other member
      have behind := (isData block List.mem_cons_self).1
      have behind' := (isData other (List.mem_cons_of_mem _ member)).1
      have different : block ≠ other := fun same => notMember (same ▸ member)
      have apart : block - volume.geometry.dataStart ≠ other - volume.geometry.dataStart := by omega
      rw [Bitmap.get_clear, marked other (List.mem_cons_of_mem _ member), Bool.true_and,
        bne_iff_ne]
      exact apart

/-- A block that comes twice is found unmarked at its second turn. -/
theorem clearBits_error {blocks : List Nat} {bitmap : Bytes}
    (refused : ¬ (blocks.Nodup ∧
      ∀ block ∈ blocks, Bitmap.get bitmap (block - volume.geometry.dataStart) = true)) :
    ∃ block damage, volume.clearBits bitmap blocks = .error (.corrupt block damage) := by
  induction blocks generalizing bitmap with
  | nil => exact absurd ⟨List.nodup_nil, by simp⟩ refused
  | cons block rest induction =>
      rw [clearBits]
      split
      · next here =>
        refine induction fun ⟨nodup, marked⟩ => refused ⟨?_, ?_⟩
        · refine List.nodup_cons.mpr ⟨fun member => ?_, nodup⟩
          have again := marked block member
          rw [Bitmap.get_clear] at again
          simp at again
        · refine List.forall_mem_cons.mpr ⟨here, fun other member => ?_⟩
          have left := marked other member
          rw [Bitmap.get_clear, Bool.and_eq_true] at left
          exact left.1
      · exact ⟨_, _, rfl⟩

/-- Taking blocks back while the cursor is locked. -/
def freeLocked (volume : Volume) (blocks : List Nat) : Update Unit := do
  let bitmap ← volume.readBitmap
  let cleared ← volume.clearBits bitmap blocks
  let count ← volume.freeBlockCount
  let after := count + blocks.length
  if volume.geometry.blocks ≤ after then
    throw (.corrupt 0 (.freeCountTooHigh count blocks.length))
  volume.writeTouched (blocks.map (· - volume.geometry.dataStart)) cleared
  volume.writeCounter Superblock.freeBlocksOffset after
  volume.unlinkAll blocks

theorem free_eq {blocks : List Nat} (some : blocks ≠ []) :
    volume.free blocks = (do
      volume.checkFreeable blocks
      volume.withCursor (volume.freeLocked blocks)) :=
  if_neg (by rwa [List.isEmpty_iff])

theorem freeLocked_leads {blocks : List Nat} (freeable : before.Freeable volume.geometry blocks) :
    Leads volume (volume.freeLocked blocks) before (.ok ())
      (before.takeBack volume.geometry blocks) := by
  refine Leads.shown fun content shows => ?_
  have length : before.bitmap.length = volume.geometry.bitmapLength := by
    rw [← shows, Disk.length_bitmap]
  have room := freeable.room
  have addressable := volume.geometry.blocks_lt_word64
  have inside : ∀ bit ∈ volume.geometry.bitsOf blocks, bit < volume.geometry.blocks := by
    intro bit member
    obtain ⟨block, isBlock, rfl⟩ := List.mem_map.mp member
    exact volume.geometry.bit_lt_of_isData (freeable.isData block isBlock)
  refine (Leads.query readBitmap_answers).bind ?_
  refine (Leads.except (clearBits_ok freeable.isData freeable.nodup freeable.marked)).bind ?_
  refine (Leads.query (readCounter_answers .freeBlocks)).bind ?_
  refine Leads.ite_neg (Nat.not_le.mpr room) ?_
  refine (writeTouched_leads inside length (Bitmap.length_clearAll _ _)
    fun index => Bitmap.getElem?_clearAll).bind ?_
  refine (writeCounter_leads .freeBlocks (by omega)).bind ?_
  exact unlinkAll_leads freeable.isData

theorem freeLocked_refuses {blocks : List Nat}
    (isData : ∀ block ∈ blocks, volume.geometry.IsData block)
    (notAnchor : volume.geometry.anchorBlock ∉ blocks)
    (refused : ¬ before.Freeable volume.geometry blocks) :
    ∃ block damage,
      Leads volume (volume.freeLocked blocks) before (.error (.corrupt block damage)) before := by
  by_cases clearable : blocks.Nodup ∧
      ∀ block ∈ blocks, Bitmap.get before.bitmap (block - volume.geometry.dataStart) = true
  · have full : volume.geometry.blocks ≤ before.counter .freeBlocks + blocks.length :=
      Nat.le_of_not_lt fun room => refused ⟨isData, notAnchor, clearable.1, clearable.2, room⟩
    refine ⟨0, .freeCountTooHigh (before.counter .freeBlocks) blocks.length, ?_⟩
    refine (Leads.query readBitmap_answers).bind ?_
    refine (Leads.except (clearBits_ok isData clearable.1 clearable.2)).bind ?_
    refine (Leads.query (readCounter_answers .freeBlocks)).bind ?_
    exact Leads.ite_pos full (Leads.throw _).bind_error
  · obtain ⟨block, damage, error⟩ := clearBits_error clearable
    refine ⟨block, damage, ?_⟩
    exact (Leads.query readBitmap_answers).bind (Leads.except error).bind_error

/-! Ends of chains -/

/-- Links the last of the blocks, if there is one, to another block. -/
def linkLast (volume : Volume) (blocks : List Nat) (next : Nat) : Update Unit :=
  match blocks.getLast? with
  | some last => volume.linkBlock last next
  | none => pure ()

theorem growChain_eq (volume : Volume) (chain : List Nat) (length : Nat) :
    volume.growChain chain length =
      if volume.geometry.blocksFor length ≤ chain.length then pure chain
      else do
        let fresh ← volume.allocate (volume.geometry.blocksFor length - chain.length)
        volume.linkLast chain (fresh.headD 0)
        return chain ++ fresh := by
  unfold growChain linkLast
  cases chain.getLast? <;> rfl

/-- Cuts a chain behind its first blocks, and frees the others. -/
def cutChain (volume : Volume) (chain : List Nat) (kept : Nat) : Update Unit := do
  volume.linkLast (chain.take kept) 0
  volume.free (chain.drop kept)

theorem shrinkChain_eq (volume : Volume) (chain : List Nat) (length : Nat) :
    volume.shrinkChain chain length =
      if chain.length ≤ volume.geometry.blocksFor length then pure (.ok (), chain)
      else do
        let outcome ← (volume.cutChain chain (volume.geometry.blocksFor length)).attempt
        return (outcome, chain.take (volume.geometry.blocksFor length)) := by
  unfold shrinkChain cutChain linkLast
  dsimp only
  cases (chain.take (volume.geometry.blocksFor length)).getLast? <;> rfl

/-- Cutting off the last block is cutting behind the others. -/
theorem freeTail_eq (volume : Volume) (first : Nat) :
    volume.freeTail first = (do
      let chain ← volume.chain first
      if chain = [] then throw (.corrupt first .emptyChain)
      volume.cutChain chain (chain.length - 1)
      return chain.dropLast.getLast?) := by
  unfold freeTail cutChain linkLast
  congr 1
  funext chain
  rcases List.eq_nil_or_concat chain with rfl | ⟨front, last, rfl⟩
  · rfl
  · rw [List.concat_eq_append, List.getLast?_concat, List.dropLast_concat, List.length_append,
      List.length_singleton, Nat.add_sub_cancel, List.take_left, List.drop_left,
      if_neg (List.append_ne_nil_of_right_ne_nil front (List.cons_ne_nil last []))]
    cases front.getLast? with
    | none => rfl
    | some tail => exact (bind_assoc (volume.linkBlock tail 0) _ _).symm

theorem linkLast_leads {blocks : List Nat} {next : Nat}
    (isData : ∀ block ∈ blocks, volume.geometry.IsData block) (bound : next < Limit.word64) :
    Leads volume (volume.linkLast blocks next) before (.ok ())
      { before with link := relinkLast before.link blocks next } := by
  rw [linkLast, relinkLast]
  cases isLast : blocks.getLast? with
  | some last => exact linkBlock_leads (isData last (List.mem_of_getLast? isLast)) bound
  | none => exact .pure ()

theorem growChain_extends {chain : List Nat} {length : Nat}
    (isData : ∀ block ∈ chain, volume.geometry.IsData block)
    (more : chain.length < volume.geometry.blocksFor length)
    (hasFree : before.HasFree volume.geometry (volume.geometry.blocksFor length - chain.length)) :
    let bits := before.nextBits volume.geometry (volume.geometry.blocksFor length - chain.length)
    Leads volume (volume.growChain chain length) before
      (.ok (chain ++ bits.map volume.geometry.blockOfBit))
      (before.extend volume.geometry chain bits) := by
  intro bits
  have positive : 0 < volume.geometry.blocksFor length - chain.length := by omega
  rw [growChain_eq]
  refine Leads.ite_neg (Nat.not_le.mpr more) ?_
  rw [allocate_eq positive]
  refine (withCursor_leads (allocateLocked_leads positive hasFree)).bind ?_
  refine (linkLast_leads isData ?_).bind (.pure _)
  exact volume.geometry.headD_lt_word64 Disk.isData_of_nextBits

end Volume

end ImageFs
