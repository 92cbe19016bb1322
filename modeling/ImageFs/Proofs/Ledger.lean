import ImageFs.Proofs.Turnover

/-!
The data area as a ledger: each inode has a chain of blocks, no block is in two chains, and the bitmap
and the free count tell which blocks are in a chain. Main statements: growing, cutting and freeing the
chain of one inode keep the ledger and leave the other chains alone, and growing fails without a trace
when there are not enough free blocks.
-/

namespace ImageFs

open Function (update)

/-! The ledger -/

/-- The chains of all inodes, the bitmap and the counters agree. -/
structure Ledger (geometry : Geometry) (disk : Disk) (chain : Nat → List Nat) : Prop where
  bitmap : disk.bitmap.length = geometry.bitmapLength
  lengths : ∀ block, geometry.IsData block → (disk.payload block).length = geometry.payloadSize
  isData : ∀ inode, ∀ block ∈ chain inode, geometry.IsData block
  nodup : ∀ inode, (chain inode).Nodup
  apart : ∀ first second, first ≠ second → ∀ block ∈ chain first, block ∉ chain second
  linked : ∀ inode, Linked disk.link (chain inode)
  anchored : chain InodeNumber.anchor = [geometry.anchorBlock]
  marked : ∀ bit < geometry.blocks,
    Bitmap.get disk.bitmap bit = true ↔ ∃ inode, geometry.blockOfBit bit ∈ chain inode
  free : disk.counter .freeBlocks = Bitmap.clearCount disk.bitmap geometry.blocks
  cursor : (geometry.blocks = 1 ∧ disk.counter .nextFreeBlock = 0) ∨
    (1 ≤ disk.counter .nextFreeBlock ∧ disk.counter .nextFreeBlock < geometry.blocks)

/-- What a change of one inode's chain leaves alone. -/
structure Beside (geometry : Geometry) (inode : Nat) (chain : Nat → List Nat) (before after : Disk) :
    Prop where
  record : after.record = before.record
  rest : after.rest = before.rest
  slotCursor : after.counter .nextFreeInode = before.counter .nextFreeInode
  spare : Bitmap.SameFrom geometry.blocks before.bitmap after.bitmap
  payload : ∀ other, other ≠ inode → ∀ block ∈ chain other,
    after.payload block = before.payload block

theorem Beside.refl (geometry : Geometry) (inode : Nat) (chain : Nat → List Nat) (disk : Disk) :
    Beside geometry inode chain disk disk :=
  ⟨rfl, rfl, rfl, .refl _ _, fun _ _ _ _ => rfl⟩

theorem Beside.trans {geometry : Geometry} {inode : Nat} {chain : Nat → List Nat} {blocks : List Nat}
    {first second third : Disk} (earlier : Beside geometry inode chain first second)
    (later : Beside geometry inode (update chain inode blocks) second third) :
    Beside geometry inode chain first third where
  record := later.record.trans earlier.record
  rest := later.rest.trans earlier.rest
  slotCursor := later.slotCursor.trans earlier.slotCursor
  spare := earlier.spare.trans later.spare
  payload other different block member := by
    refine (later.payload other different block ?_).trans
      (earlier.payload other different block member)
    rwa [Function.update_of_ne different]

variable {volume : Volume} {before after : Disk} {chain : Nat → List Nat} {inode : Nat}

namespace Ledger

theorem streams (ledger : Ledger volume.geometry before chain) (notAnchor : inode ≠ InodeNumber.anchor) :
    Streams volume.geometry before (chain inode) where
  isData := ledger.isData inode
  notAnchor member := ledger.apart inode InodeNumber.anchor notAnchor _ member
    (by rw [ledger.anchored]; exact List.mem_singleton.mpr rfl)
  nodup := ledger.nodup inode
  lengths block member := ledger.lengths block (ledger.isData inode block member)

theorem chain_answers (ledger : Ledger volume.geometry before chain) (inode : Nat) :
    Answers volume (volume.chain ((chain inode).headD 0)) before (.ok (chain inode)) :=
  Volume.chain_answers (ledger.isData inode) (ledger.nodup inode) (ledger.linked inode)

theorem marked_of_mem (ledger : Ledger volume.geometry before chain) {block : Nat}
    (member : block ∈ chain inode) :
    Bitmap.get before.bitmap (block - volume.geometry.dataStart) = true := by
  have isData := ledger.isData inode block member
  refine (ledger.marked _ (volume.geometry.bit_lt_of_isData isData)).mpr ⟨inode, ?_⟩
  rwa [volume.geometry.blockOfBit_sub isData]

theorem reserved (ledger : Ledger volume.geometry before chain) :
    Bitmap.get before.bitmap 0 = true := by
  refine (ledger.marked 0 volume.geometry.blocks_pos).mpr ⟨InodeNumber.anchor, ?_⟩
  rw [ledger.anchored]
  exact List.mem_singleton.mpr rfl

theorem clearCount_lt (ledger : Ledger volume.geometry before chain) :
    Bitmap.clearCount before.bitmap volume.geometry.blocks < volume.geometry.blocks :=
  FirstFit.clearCount_lt volume.geometry.blocks_pos ledger.reserved

/-- What is in no chain is free. -/
theorem blocks_le (ledger : Ledger volume.geometry before chain) {inodes : List Nat}
    (others : ∀ inode ∉ inodes, chain inode = []) :
    volume.geometry.blocks ≤ before.counter .freeBlocks + (inodes.flatMap chain).length := by
  let marked := (List.range volume.geometry.blocks).filter (Bitmap.get before.bitmap ·)
  have inChains : marked.map volume.geometry.blockOfBit ⊆ inodes.flatMap chain := by
    intro block member
    obtain ⟨bit, isMarked, rfl⟩ := List.mem_map.mp member
    obtain ⟨inside, isMarked⟩ := List.mem_filter.mp isMarked
    obtain ⟨inode, inChain⟩ := (ledger.marked bit (List.mem_range.mp inside)).mp isMarked
    refine List.mem_flatMap.mpr ⟨inode, ?_, inChain⟩
    by_contra notMember
    rw [others inode notMember] at inChain
    cases inChain
  have nodup : (marked.map volume.geometry.blockOfBit).Nodup :=
    (List.nodup_range.filter _).map volume.geometry.blockOfBit_injective
  have few := (nodup.subperm inChains).length_le
  have parts : marked.length + Bitmap.clearCount before.bitmap volume.geometry.blocks =
      volume.geometry.blocks := by
    have whole := List.length_eq_countP_add_countP (Bitmap.get before.bitmap ·)
      (l := List.range volume.geometry.blocks)
    simp only [List.length_range, Bool.not_eq_true, Bool.decide_eq_false] at whole
    rw [← List.countP_eq_length_filter]
    exact whole.symm
  rw [List.length_map] at few
  rw [ledger.free]
  omega

/-- The ledger is about the bitmap, the data blocks and their counters. -/
theorem congr (ledger : Ledger volume.geometry before chain)
    (bitmap : after.bitmap = before.bitmap) (payload : after.payload = before.payload)
    (link : after.link = before.link)
    (free : after.counter .freeBlocks = before.counter .freeBlocks)
    (cursor : after.counter .nextFreeBlock = before.counter .nextFreeBlock) :
    Ledger volume.geometry after chain where
  bitmap := by rw [bitmap, ledger.bitmap]
  lengths := by rw [payload]; exact ledger.lengths
  isData := ledger.isData
  nodup := ledger.nodup
  apart := ledger.apart
  linked := by rw [link]; exact ledger.linked
  anchored := ledger.anchored
  marked := by rw [bitmap]; exact ledger.marked
  free := by rw [free, bitmap, ledger.free]
  cursor := by rw [cursor]; exact ledger.cursor

/-- The ledger after the chain of one inode has been replaced. -/
theorem replace (ledger : Ledger volume.geometry before chain) {blocks : List Nat}
    (notAnchor : inode ≠ InodeNumber.anchor)
    (bitmap : after.bitmap.length = before.bitmap.length)
    (lengths : ∀ block, volume.geometry.IsData block →
      (after.payload block).length = volume.geometry.payloadSize)
    (isData : ∀ block ∈ blocks, volume.geometry.IsData block) (nodup : blocks.Nodup)
    (owned : ∀ block ∈ blocks, ∀ other, other ≠ inode → block ∉ chain other)
    (links : ∀ other, other ≠ inode → ∀ block ∈ chain other, after.link block = before.link block)
    (linked : Linked after.link blocks)
    (marked : ∀ bit < volume.geometry.blocks, Bitmap.get after.bitmap bit = true ↔
      volume.geometry.blockOfBit bit ∈ blocks ∨
        ∃ other, other ≠ inode ∧ volume.geometry.blockOfBit bit ∈ chain other)
    (free : after.counter .freeBlocks =
      Bitmap.clearCount after.bitmap volume.geometry.blocks)
    (cursor : (volume.geometry.blocks = 1 ∧ after.counter .nextFreeBlock = 0) ∨
      (1 ≤ after.counter .nextFreeBlock ∧
        after.counter .nextFreeBlock < volume.geometry.blocks)) :
    Ledger volume.geometry after (update chain inode blocks) where
  bitmap := bitmap.trans ledger.bitmap
  lengths := lengths
  isData := (Function.forall_update_iff chain fun _ blocks => ∀ block ∈ blocks,
    volume.geometry.IsData block).mpr ⟨isData, fun other _ => ledger.isData other⟩
  nodup := (Function.forall_update_iff chain fun _ blocks => blocks.Nodup).mpr
    ⟨nodup, fun other _ => ledger.nodup other⟩
  apart first second different block := by
    by_cases same : first = inode
    · subst same
      rw [Function.update_self, Function.update_of_ne (Ne.symm different)]
      exact fun member => owned block member second (Ne.symm different)
    · rw [Function.update_of_ne same]
      by_cases same' : second = inode
      · subst same'
        rw [Function.update_self]
        exact fun member inBlocks => owned block inBlocks first different member
      · rw [Function.update_of_ne same']
        exact ledger.apart first second different block
  linked := (Function.forall_update_iff chain fun _ blocks => Linked after.link blocks).mpr
    ⟨linked, fun other different => (ledger.linked other).congr (links other different)⟩
  anchored := by
    rw [Function.update_of_ne (Ne.symm notAnchor)]
    exact ledger.anchored
  marked bit inside := by
    rw [marked bit inside]
    constructor
    · rintro (member | ⟨other, different, member⟩)
      · exact ⟨inode, by rwa [Function.update_self]⟩
      · exact ⟨other, by rwa [Function.update_of_ne different]⟩
    · rintro ⟨other, member⟩
      by_cases same : other = inode
      · subst same
        rw [Function.update_self] at member
        exact .inl member
      · rw [Function.update_of_ne same] at member
        exact .inr ⟨other, same, member⟩
  free := free
  cursor := cursor

end Ledger

/-! Handing out -/

/-- What handing out the blocks `fresh` does. -/
structure Allocated (geometry : Geometry) (before : Disk) (fresh : List Nat) (after : Disk) :
    Prop where
  isData : ∀ block ∈ fresh, geometry.IsData block
  nodup : fresh.Nodup
  unmarked : ∀ block ∈ fresh, Bitmap.get before.bitmap (block - geometry.dataStart) = false
  bitmap : after.bitmap.length = before.bitmap.length
  spare : Bitmap.SameFrom geometry.blocks before.bitmap after.bitmap
  marked : ∀ bit < geometry.blocks, Bitmap.get after.bitmap bit =
    (Bitmap.get before.bitmap bit || decide (geometry.blockOfBit bit ∈ fresh))
  free : after.counter .freeBlocks = Bitmap.clearCount after.bitmap geometry.blocks
  cursor : 1 ≤ after.counter .nextFreeBlock ∧ after.counter .nextFreeBlock < geometry.blocks
  slotCursor : after.counter .nextFreeInode = before.counter .nextFreeInode
  record : after.record = before.record
  rest : after.rest = before.rest
  cleared : ∀ block ∈ fresh, after.payload block = .zeros geometry.payloadSize
  untouched : ∀ block ∉ fresh, after.payload block = before.payload block ∧
    after.link block = before.link block
  linked : Linked after.link fresh

/-- Fresh blocks were unmarked, and the blocks of all chains are marked. -/
theorem Allocated.unowned {fresh : List Nat} (allocated : Allocated volume.geometry before fresh after)
    (ledger : Ledger volume.geometry before chain) {block : Nat} (isFresh : block ∈ fresh)
    (other : Nat) : block ∉ chain other := by
  intro inChain
  have marked := ledger.marked_of_mem inChain
  rw [allocated.unmarked block isFresh] at marked
  cases marked

namespace Ledger

theorem hasFree {count : Nat} (ledger : Ledger volume.geometry before chain)
    (enough : count ≤ Bitmap.clearCount before.bitmap volume.geometry.blocks) :
    before.HasFree volume.geometry count where
  counted := by rwa [ledger.free]
  clear := by rwa [← FirstFit.clearCount_eq_usable volume.geometry.blocks_pos ledger.reserved]

theorem allocated {count : Nat} (ledger : Ledger volume.geometry before chain)
    (positive : 0 < count)
    (enough : count ≤ Bitmap.clearCount before.bitmap volume.geometry.blocks) :
    Allocated volume.geometry before
      ((before.nextBits volume.geometry count).map volume.geometry.blockOfBit)
      (before.handOut volume.geometry (before.nextBits volume.geometry count)) := by
  let bits := before.nextBits volume.geometry count
  have covered : volume.geometry.blocks ≤ 8 * before.bitmap.length := by
    rw [ledger.bitmap]
    exact volume.geometry.blocks_le_bitmap
  have hasFree := ledger.hasFree enough
  have some : bits ≠ [] := List.ne_nil_of_length_pos (by rwa [hasFree.length_nextBits])
  have counted : Bitmap.clearCount (bits.foldl Bitmap.set before.bitmap) volume.geometry.blocks +
      bits.length = Bitmap.clearCount before.bitmap volume.geometry.blocks :=
    Bitmap.clearCount_setAll covered (Disk.nodup_nextBits count) fun bit member =>
      ⟨(Disk.nextBits_usable member).1.2, (Disk.nextBits_usable member).2⟩
  have nodup := @Disk.nodup_blocks_of_nextBits volume.geometry before count
  refine ⟨Disk.isData_of_nextBits, nodup, ?_, Bitmap.length_setAll _ _,
    .setAll (Disk.nextBits_covered ledger.bitmap) fun bit member => (Disk.nextBits_usable member).1.2,
    ?_, ?_, ?_, ?_, rfl, rfl, ?_, ?_, linked_relink nodup⟩
  · intro block member
    obtain ⟨bit, isBit, rfl⟩ := List.mem_map.mp member
    rw [Geometry.blockOfBit, Nat.add_sub_cancel_left]
    exact (Disk.nextBits_usable isBit).2
  · intro bit isInside
    refine (Bitmap.get_setAll (Disk.nextBits_covered ledger.bitmap) bit).trans ?_
    simp only [Geometry.mem_map_blockOfBit]
  · simp only [Disk.handOut, ledger.free, ne_eq, reduceCtorEq, not_false_eq_true,
      Function.update_of_ne, Function.update_self]
    exact Nat.sub_eq_of_eq_add counted.symm
  · simp only [Disk.handOut, Function.update_self]
    exact FirstFit.cursorBehind_usable (hasFree.two_le_blocks positive) some
  · simp [Disk.handOut]
  · exact fun block member => if_pos member
  · exact fun block notMember => ⟨if_neg notMember, relink_of_notMem notMember⟩

end Ledger

namespace Volume

/-! Growing a chain -/

theorem growChain_error {length : Nat} (ledger : Ledger volume.geometry before chain)
    (fewer : Bitmap.clearCount before.bitmap volume.geometry.blocks <
      volume.geometry.blocksFor length - (chain inode).length) :
    Leads volume (volume.growChain (chain inode) length) before (.error .noFreeBlocks) before := by
  refine Leads.ite_neg (by omega) (Leads.bind_error ?_)
  rw [allocate_eq (Nat.zero_lt_of_lt fewer)]
  refine withCursor_leads (allocateLocked_refuses fun hasFree => ?_)
  exact absurd hasFree.counted (by rw [ledger.free]; omega)

/-- The ledger after fresh blocks have been linked behind the last block of a chain. -/
theorem ledger_of_allocated (ledger : Ledger volume.geometry before chain)
    (notAnchor : inode ≠ InodeNumber.anchor) {fresh : List Nat} {link : Nat → Nat}
    (allocated : Allocated volume.geometry before fresh after)
    (linked : Linked link (chain inode ++ fresh))
    (links : ∀ block ∉ chain inode, link block = after.link block) :
    Ledger volume.geometry { after with link } (update chain inode (chain inode ++ fresh)) := by
  have unowned {block : Nat} := @Allocated.unowned _ _ _ _ _ allocated ledger block
  have inFresh (block : Nat) (isData : volume.geometry.IsData block) :
      (after.payload block).length = volume.geometry.payloadSize := by
    by_cases isFresh : block ∈ fresh
    · rw [allocated.cleared block isFresh, Bytes.length_zeros]
    · rw [(allocated.untouched block isFresh).1, ledger.lengths block isData]
  refine ledger.replace notAnchor allocated.bitmap inFresh ?_ ?_ ?_ ?_ linked ?_ allocated.free
    (.inr allocated.cursor)
  · intro block member
    rcases List.mem_append.mp member with old | new
    · exact ledger.isData inode block old
    · exact allocated.isData block new
  · refine List.nodup_append.mpr ⟨ledger.nodup inode, allocated.nodup, ?_⟩
    intro first old second new same
    exact unowned new inode (same ▸ old)
  · intro block member other different
    rcases List.mem_append.mp member with old | new
    · exact ledger.apart inode other (Ne.symm different) block old
    · exact unowned new other
  · intro other different block member
    have notFresh : block ∉ fresh := fun isFresh => unowned isFresh other member
    exact (links block (ledger.apart other inode different block member)).trans
      (allocated.untouched block notFresh).2
  · intro bit inside
    refine Iff.trans (b := Bitmap.get before.bitmap bit = true ∨
      volume.geometry.blockOfBit bit ∈ fresh) ?_ ?_
    · change Bitmap.get after.bitmap bit = true ↔ _
      rw [allocated.marked bit inside, Bool.or_eq_true, decide_eq_true_eq]
    · rw [ledger.marked bit inside, List.mem_append]
      constructor
      · rintro (⟨other, member⟩ | isFresh)
        · by_cases same : other = inode
          · exact .inl (.inl (same ▸ member))
          · exact .inr ⟨other, same, member⟩
        · exact .inl (.inr isFresh)
      · rintro ((member | isFresh) | ⟨other, _, member⟩)
        · exact .inl ⟨inode, member⟩
        · exact .inr isFresh
        · exact .inl ⟨other, member⟩

/-- Growing a chain extends its stream by zeros. -/
theorem growChain_leads {length : Nat} (ledger : Ledger volume.geometry before chain)
    (notAnchor : inode ≠ InodeNumber.anchor)
    (enough : volume.geometry.blocksFor length - (chain inode).length ≤
      Bitmap.clearCount before.bitmap volume.geometry.blocks) :
    let bits := before.nextBits volume.geometry
      (volume.geometry.blocksFor length - (chain inode).length)
    let grown := chain inode ++ bits.map volume.geometry.blockOfBit
    let after := before.extend volume.geometry (chain inode) bits
    Leads volume (volume.growChain (chain inode) length) before (.ok grown) after ∧
      Ledger volume.geometry after (update chain inode grown) ∧
      Beside volume.geometry inode chain before after ∧
      bits.length = volume.geometry.blocksFor length - (chain inode).length ∧
      after.stream grown =
        before.stream (chain inode) ++ .zeros (bits.length * volume.geometry.payloadSize) := by
  intro bits grown after
  have count : bits.length = volume.geometry.blocksFor length - (chain inode).length :=
    (ledger.hasFree enough).length_nextBits
  by_cases fits : volume.geometry.blocksFor length ≤ (chain inode).length
  · have nothing : bits = [] := List.eq_nil_of_length_eq_zero (by omega)
    have same : after = before := by
      simp only [after, nothing]
      exact Disk.extend_nil (ledger.linked inode)
    have isGrown : grown = chain inode := by simp [grown, nothing]
    rw [same, isGrown, nothing]
    refine ⟨Leads.ite_pos fits (.pure _), ?_, .refl .., ?_, ?_⟩
    · rw [Function.update_eq_self]
      exact ledger
    · rw [← nothing, count]
    · simp [Bytes.zeros]
  · have more := Nat.not_le.mp fits
    have allocated := ledger.allocated (by omega) enough
    have unowned {block : Nat} (other : Nat) (member : block ∈ chain other) :
        block ∉ bits.map volume.geometry.blockOfBit :=
      fun isFresh => allocated.unowned ledger isFresh other member
    have nodup : grown.Nodup := List.nodup_append.mpr ⟨ledger.nodup inode, allocated.nodup,
      fun block member other isFresh same => unowned inode member (same ▸ isFresh)⟩
    refine ⟨growChain_extends (ledger.isData inode) more (ledger.hasFree enough), ?_, ?_, count,
      Disk.stream_extend nodup⟩
    · exact ledger_of_allocated ledger notAnchor allocated
        (Disk.linked_extend (ledger.linked inode) nodup) fun _ => relinkLast_of_notMem
    · exact ⟨allocated.record, allocated.rest, allocated.slotCursor, allocated.spare,
        fun other _ block member => (allocated.untouched block (unowned other member)).1⟩

/-! Cutting a chain -/

theorem notMem_drop_of_mem_take (ledger : Ledger volume.geometry before chain) {kept block : Nat}
    (member : block ∈ (chain inode).take kept) : block ∉ (chain inode).drop kept := by
  have parts := ledger.nodup inode
  rw [← List.take_append_drop kept (chain inode)] at parts
  exact fun inDrop => (List.nodup_append.mp parts).2.2 block member block inDrop rfl

/-- The bits of the back part of a chain have been cleared: what is marked now is in the front part or in
another chain. -/
theorem marked_of_cut (ledger : Ledger volume.geometry before chain) (inode kept : Nat) {bit : Nat}
    (inside : bit < volume.geometry.blocks) :
    Bitmap.get ((volume.geometry.bitsOf ((chain inode).drop kept)).foldl Bitmap.clear before.bitmap) bit = true ↔
      volume.geometry.blockOfBit bit ∈ (chain inode).take kept ∨
        ∃ other, other ≠ inode ∧ volume.geometry.blockOfBit bit ∈ chain other := by
  have isData : ∀ block ∈ (chain inode).drop kept, volume.geometry.IsData block :=
    fun block member => ledger.isData inode block (List.mem_of_mem_drop member)
  rw [Bitmap.get_clearAll, Bool.and_eq_true, ledger.marked bit inside]
  simp only [Geometry.mem_bitsOf isData, Bool.not_eq_true', decide_eq_false_iff_not]
  constructor
  · rintro ⟨⟨other, member⟩, notFreed⟩
    by_cases same : other = inode
    · subst same
      rw [← List.take_append_drop kept (chain other)] at member
      exact .inl ((List.mem_append.mp member).resolve_right notFreed)
    · exact .inr ⟨other, same, member⟩
  · rintro (inTake | ⟨other, different, member⟩)
    · exact ⟨⟨inode, List.mem_of_mem_take inTake⟩, notMem_drop_of_mem_take ledger inTake⟩
    · exact ⟨⟨other, member⟩, fun inDrop =>
        ledger.apart other inode different _ member (List.mem_of_mem_drop inDrop)⟩

/-- Freeing the back part of a chain whose front part has been cut off. -/
theorem free_leads (link : Nat → Nat) {kept : Nat} (ledger : Ledger volume.geometry before chain)
    (notAnchor : inode ≠ InodeNumber.anchor) (some : kept < (chain inode).length)
    (linked : Linked link ((chain inode).take kept))
    (links : ∀ other, other ≠ inode → ∀ block ∈ chain other, link block = before.link block) :
    ∃ after, Leads volume (volume.free ((chain inode).drop kept)) { before with link } (.ok ())
        after ∧
      Ledger volume.geometry after (update chain inode ((chain inode).take kept)) ∧
      Beside volume.geometry inode chain before after ∧ after.payload = before.payload := by
  let blocks := (chain inode).drop kept
  have owned {block : Nat} (member : block ∈ blocks) : block ∈ chain inode :=
    List.mem_of_mem_drop member
  have isData : ∀ block ∈ blocks, volume.geometry.IsData block :=
    fun block member => ledger.isData inode block (owned member)
  have nodup : blocks.Nodup := (ledger.nodup inode).sublist (List.drop_sublist ..)
  have notInFree : volume.geometry.anchorBlock ∉ blocks :=
    fun member => (ledger.streams notAnchor).notAnchor (owned member)
  have marked : ∀ block ∈ blocks,
      Bitmap.get before.bitmap (block - volume.geometry.dataStart) = true :=
    fun block member => ledger.marked_of_mem (owned member)
  have bitsMarked : ∀ bit ∈ volume.geometry.bitsOf blocks,
      bit < volume.geometry.blocks ∧ Bitmap.get before.bitmap bit = true := by
    intro bit member
    obtain ⟨block, isBlock, rfl⟩ := List.mem_map.mp member
    exact ⟨volume.geometry.bit_lt_of_isData (isData block isBlock), marked block isBlock⟩
  have counted : Bitmap.clearCount ((volume.geometry.bitsOf blocks).foldl Bitmap.clear before.bitmap)
      volume.geometry.blocks =
        Bitmap.clearCount before.bitmap volume.geometry.blocks + blocks.length := by
    have cleared := Bitmap.clearCount_clearAll (Geometry.nodup_bitsOf isData nodup) bitsMarked
    rwa [Geometry.bitsOf, List.length_map] at cleared
  have reserved : Bitmap.get ((volume.geometry.bitsOf blocks).foldl Bitmap.clear before.bitmap) 0 =
      true := by
    have notBit : 0 ∉ volume.geometry.bitsOf blocks :=
      fun member => notInFree ((Geometry.mem_bitsOf isData 0).mp member)
    rw [Bitmap.get_clearAll, ledger.reserved]
    simp [notBit]
  have below := FirstFit.clearCount_lt volume.geometry.blocks_pos reserved
  have freeable : Disk.Freeable volume.geometry { before with link } blocks :=
    ⟨isData, notInFree, nodup, marked, by
      change before.counter .freeBlocks + _ < _
      rwa [ledger.free, ← counted]⟩
  have others (block : Nat) (notFreed : block ∉ blocks) :
      (Disk.takeBack volume.geometry { before with link } blocks).link block = link block :=
    if_neg notFreed
  refine ⟨Disk.takeBack volume.geometry { before with link } blocks, ?_, ?_,
    ⟨rfl, rfl, by simp [Disk.takeBack], .clearAll fun bit member => (bitsMarked bit member).1,
      fun _ _ _ _ => rfl⟩, rfl⟩
  · have notEmpty : blocks ≠ [] := List.ne_nil_of_length_pos (by rw [List.length_drop]; omega)
    rw [free_eq notEmpty]
    refine (Leads.except (checkFreeable_ok isData notInFree)).bind ?_
    exact withCursor_leads (freeLocked_leads freeable)
  · refine ledger.replace notAnchor (Bitmap.length_clearAll _ _) ledger.lengths
      (fun block member => ledger.isData inode block (List.mem_of_mem_take member))
      ((ledger.nodup inode).sublist (List.take_sublist ..))
      (fun block member other different =>
        ledger.apart inode other (Ne.symm different) block (List.mem_of_mem_take member))
      ?_ ?_ ?_ ?_ ?_
    · intro other different block member
      refine (others block fun inDrop => ?_).trans (links other different block member)
      exact ledger.apart other inode different block member (owned inDrop)
    · exact linked.congr fun block member => others block (notMem_drop_of_mem_take ledger member)
    · exact fun bit inside => marked_of_cut ledger inode kept inside
    · simp only [Disk.takeBack, Function.update_self]
      rw [ledger.free, ← counted]
    · simpa [Disk.takeBack] using ledger.cursor

theorem freeChain_leads (ledger : Ledger volume.geometry before chain)
    (notAnchor : inode ≠ InodeNumber.anchor) (some : chain inode ≠ []) :
    ∃ after, Leads volume (volume.freeChain ((chain inode).headD 0)) before
        (.ok (chain inode).length) after ∧
      Ledger volume.geometry after (update chain inode []) ∧
      Beside volume.geometry inode chain before after := by
  obtain ⟨after, leads, ledger', beside, _⟩ :=
    free_leads before.link ledger notAnchor (List.length_pos_iff.mpr some) trivial
      fun _ _ _ _ => rfl
  refine ⟨after, ?_, ledger', beside⟩
  refine (Leads.query (ledger.chain_answers inode)).bind ?_
  exact leads.bind (.pure _)

/-- Cutting a chain leaves all payloads alone. -/
theorem shrinkChain_leads (length : Nat) (ledger : Ledger volume.geometry before chain)
    (notAnchor : inode ≠ InodeNumber.anchor) :
    ∃ after, Leads volume (volume.shrinkChain (chain inode) length) before
        (.ok (.ok (), (chain inode).take (volume.geometry.blocksFor length))) after ∧
      Ledger volume.geometry after
        (update chain inode ((chain inode).take (volume.geometry.blocksFor length))) ∧
      Beside volume.geometry inode chain before after ∧ after.payload = before.payload := by
  by_cases fits : (chain inode).length ≤ volume.geometry.blocksFor length
  · rw [List.take_of_length_le fits, Function.update_eq_self]
    exact ⟨before, Leads.ite_pos fits (.pure _), ledger, .refl .., rfl⟩
  have some := Nat.not_le.mp fits
  let kept := (chain inode).take (volume.geometry.blocksFor length)
  have isData : ∀ block ∈ kept, volume.geometry.IsData block :=
    fun block member => ledger.isData inode block (List.mem_of_mem_take member)
  have linked : Linked (relinkLast before.link kept 0) kept := by
    have whole : Linked before.link
        (kept ++ (chain inode).drop (volume.geometry.blocksFor length)) := by
      rw [List.take_append_drop]
      exact ledger.linked inode
    have nothing : Linked before.link [] := trivial
    have joined := whole.join nothing ((ledger.nodup inode).sublist (List.take_sublist ..)) (by simp)
    rwa [List.append_nil] at joined
  obtain ⟨after, leads, facts⟩ := free_leads (relinkLast before.link kept 0) ledger notAnchor some linked
    fun other different block inOther => relinkLast_of_notMem fun member =>
      ledger.apart other inode different block inOther (List.mem_of_mem_take member)
  refine ⟨after, ?_, facts⟩
  rw [shrinkChain_eq]
  refine Leads.ite_neg fits (Leads.bind (Leads.attempt ?_) (.pure _))
  exact (linkLast_leads isData (Nat.succ_pos _)).bind leads

/-! Writing into a chain -/

theorem writeStream_leads {offset : Nat} {bytes : Bytes}
    (ledger : Ledger volume.geometry before chain) (notAnchor : inode ≠ InodeNumber.anchor)
    (fits : offset + bytes.length ≤ (chain inode).length * volume.geometry.payloadSize) :
    let after := before.overwrite volume.geometry (chain inode) offset bytes
    Leads volume (volume.writeChain (chain inode) offset bytes) before (.ok ()) after ∧
      Ledger volume.geometry after chain ∧ Beside volume.geometry inode chain before after ∧
      after.stream (chain inode) = (before.stream (chain inode)).overlay offset bytes := by
  intro after
  have streams := ledger.streams notAnchor
  refine ⟨writeChain_leads streams fits, ?_, ⟨rfl, rfl, rfl, .refl _ _, ?_⟩,
    Disk.stream_overwrite streams.nodup streams.lengths fun _ => fits⟩
  · refine { ledger with lengths := fun block isData => ?_ }
    by_cases member : block ∈ chain inode
    · exact length_deal (Disk.length_overlay_stream streams.lengths fun _ => fits) member
    · exact (congrArg List.length (deal_of_notMem member)).trans (ledger.lengths block isData)
  · intro other different block member
    exact deal_of_notMem (ledger.apart other inode different block member)

end Volume

end ImageFs
