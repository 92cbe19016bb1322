import ImageFs.Proofs.Represents

/-!
The superblock of an image in order: it is the fresh one with the counters of the disk. Main statements:
a superblock is read back from its record, the one on the disk agrees with the geometry, and the sizes
in it are those of the geometry.
-/

namespace ImageFs

/-! Fields in a row -/

namespace Field

/-- The fields lie without gaps from a position on. -/
def Row : Nat → List (Nat × Bytes) → Prop
  | _, [] => True
  | start, (offset, part) :: rest => offset = start ∧ Row (start + part.length) rest

theorem slice_row {fields : List (Nat × Bytes)} {front : Bytes} (row : Row front.length fields)
    {offset : Nat} {part : Bytes} (member : (offset, part) ∈ fields)
    (bound : (front ++ fields.flatMap Prod.snd).length < Limit.word64) :
    slice (front ++ fields.flatMap Prod.snd) offset part.length = .ok part := by
  induction fields generalizing front with
  | nil => cases member
  | cons field rest induction =>
      obtain ⟨first, bytes⟩ := field
      obtain ⟨isFirst, row'⟩ := row
      subst isFirst
      rw [List.flatMap_cons, ← List.append_assoc] at bound ⊢
      rcases List.mem_cons.mp member with same | member
      · cases same
        rw [List.append_assoc] at bound ⊢
        simp only [List.length_append] at bound
        rw [slice_of_le (by simp only [List.length_append]; omega) (by omega), List.drop_left,
          List.take_left]
      · exact induction (by rwa [List.length_append]) member bound

end Field

/-! The record -/

namespace Superblock

theorem row_fields (superblock : Superblock) : Field.Row 0 superblock.fields := by
  simp [fields, Field.Row]

theorem slice_encode {superblock : Superblock} {offset : Nat} {part : Bytes}
    (member : (offset, part) ∈ superblock.fields) :
    Field.slice superblock.encode offset part.length = .ok part := by
  refine @Field.slice_row superblock.fields [] superblock.row_fields offset part member ?_
  have length := superblock.length_encode
  rw [List.nil_append]
  change superblock.encode.length < _
  rw [length]
  decide

theorem readWord32_encode {superblock : Superblock} {offset : Nat} {word : UInt32}
    (member : (offset, .ofUInt32 word) ∈ superblock.fields) :
    Field.readWord32 superblock.encode offset = .ok word := by
  have slice := slice_encode member
  rw [Bytes.length_ofUInt32] at slice
  rw [Field.readWord32, slice, Except.map, Bytes.toUInt32_ofUInt32]

theorem readWord64_encode {superblock : Superblock} {offset : Nat} {word : UInt64}
    (member : (offset, .ofUInt64 word) ∈ superblock.fields) :
    Field.readWord64 superblock.encode offset = .ok word := by
  have slice := slice_encode member
  rw [Bytes.length_ofUInt64] at slice
  rw [Field.readWord64, slice, Except.map, Bytes.toUInt64_ofUInt64]

theorem parse_encode {superblock : Superblock} (magic : superblock.magic = magicNumber) :
    parse superblock.encode = .ok superblock := by
  have whole := Field.slice_whole superblock.length_encode (by decide)
  simp only [parse, bind, Except.bind, pure, Except.pure, whole,
    @readWord32_encode superblock 0 superblock.magic (by simp [fields]),
    @readWord32_encode superblock 4 superblock.blockSize (by simp [fields]),
    @readWord64_encode superblock 8 superblock.blocks (by simp [fields]),
    @readWord64_encode superblock freeBlocksOffset superblock.freeBlocks (by simp [fields]),
    @readWord64_encode superblock nextFreeBlockOffset superblock.nextFreeBlock (by simp [fields]),
    @readWord64_encode superblock 32 superblock.bitmapBlocks (by simp [fields]),
    @readWord64_encode superblock 40 superblock.inodeTableBlocks (by simp [fields]),
    @readWord64_encode superblock 48 superblock.dataStart (by simp [fields]),
    @readWord64_encode superblock 56 superblock.firstInodeBlock (by simp [fields]),
    @readWord64_encode superblock nextFreeInodeOffset superblock.nextFreeInode (by simp [fields]),
    @readWord64_encode superblock 72 superblock.inodeCount (by simp [fields])]
  exact if_neg (not_not.mpr magic)

/-! The superblock on the disk -/

/-- The fresh superblock with the counters of a disk. -/
def current (geometry : Geometry) (disk : Disk) : Superblock :=
  { fresh geometry with
    freeBlocks := UInt64.ofNat (disk.counter .freeBlocks)
    nextFreeBlock := UInt64.ofNat (disk.counter .nextFreeBlock)
    nextFreeInode := UInt64.ofNat (disk.counter .nextFreeInode) }

theorem parts_encode (superblock : Superblock) :
    superblock.encode = superblock.encode.take 16 ++ .ofUInt64 superblock.freeBlocks ++
      .ofUInt64 superblock.nextFreeBlock ++ (superblock.encode.drop 32).take 32 ++
      .ofUInt64 superblock.nextFreeInode ++ superblock.encode.drop 72 := by
  simp [encode, fields, List.take_append, List.drop_append, List.take_of_length_le,
    List.drop_eq_nil_of_le]

variable {geometry : Geometry}

theorem fixed_current (disk : Disk) :
    (current geometry disk).encode.take 16 = (fresh geometry).encode.take 16 ∧
      ((current geometry disk).encode.drop 32).take 32 =
        ((fresh geometry).encode.drop 32).take 32 ∧
      (current geometry disk).encode.drop 72 = (fresh geometry).encode.drop 72 := by
  refine ⟨?_, ?_, ?_⟩ <;>
    simp [current, encode, fields, List.take_append, List.drop_append, List.take_of_length_le,
      List.drop_eq_nil_of_le]

theorem read_fixed {content : Content} (rest : (Disk.of geometry content).rest = Disk.fixed geometry)
    {offset count : Nat} (inside : offset + count ≤ length)
    (outside : ∀ position, offset ≤ position → position < offset + count →
      Area.Outside geometry position) :
    content.read offset count = ((fresh geometry).encode.drop offset).take count := by
  apply List.ext_getElem?
  intro index
  rw [Content.getElem?_read, List.getElem?_take]
  split
  · next within =>
    have isOutside := outside (offset + index) (by omega) (by omega)
    have byte := congrFun rest (offset + index)
    have present : offset + index < (fresh geometry).encode.length := by
      rw [length_encode]
      omega
    simp only [Disk.of, Disk.fixed, if_pos isOutside] at byte
    rw [byte, List.getElem?_drop, List.getElem?_eq_getElem present]
    rfl
  · rfl

theorem read_current {content : Content}
    (rest : (Disk.of geometry content).rest = Disk.fixed geometry) :
    content.read 0 length = (current geometry (Disk.of geometry content)).encode := by
  have minimum := geometry.minimum
  have start : geometry.bitmapOffset = geometry.blockSize := rfl
  have isLength : length = 80 := rfl
  have counter (which : Counter) : content.read which.offset 8 =
      .ofUInt64 (UInt64.ofNat ((Disk.of geometry content).counter which)) :=
    (Bytes.ofUInt64_toUInt64 (content.length_read which.offset 8)).symm
  have first := @read_fixed geometry content rest 0 16 (by omega)
    (fun position _ before => .inl (by omega))
  have second := @read_fixed geometry content rest 32 32 (by omega)
    (fun position behind before => .inr (.inl (by omega)))
  have third := @read_fixed geometry content rest 72 8 (by omega)
    (fun position behind before => .inr (.inr (.inl (by omega))))
  have lastLength : ((fresh geometry).encode.drop 72).length ≤ 8 := by
    rw [List.length_drop, length_encode]
    omega
  obtain ⟨first', second', third'⟩ := @fixed_current geometry (Disk.of geometry content)
  rw [List.take_of_length_le lastLength, ← third'] at third
  rw [List.drop_zero, ← first'] at first
  rw [← second'] at second
  rw [parts_encode, ← first, ← second, ← third, isLength,
    show 80 = 16 + (8 + (8 + (32 + (8 + 8)))) by rfl, Content.read_append, Content.read_append,
    Content.read_append, Content.read_append, Content.read_append]
  simp only [List.append_assoc]
  exact congr (congrArg _ rfl) (congr (congrArg _ (counter .freeBlocks)) (congr (congrArg _
    (counter .nextFreeBlock)) (congr (congrArg _ rfl) (congr (congrArg _ (counter .nextFreeInode))
      rfl))))

/-! Agreement with the geometry -/

theorem sizes_lt (geometry : Geometry) : geometry.totalBlocks < Limit.word64 := by
  have addressable : geometry.totalBlocks * geometry.blockSize < Limit.word64 :=
    geometry.addressable
  have minimum := geometry.minimum
  exact Nat.lt_of_le_of_lt (Nat.le_mul_of_pos_right _ (by omega)) addressable

theorem ofSizes_fresh (geometry : Geometry) :
    Geometry.ofSizes (fresh geometry).blockSize (fresh geometry).blocks = .ok geometry := by
  have total := sizes_lt geometry
  have sum := geometry.totalBlocks_eq
  have minimum := geometry.minimum
  have even := geometry.even
  have positive := geometry.blocks_pos
  have blockSize : (fresh geometry).blockSize.toNat = geometry.blockSize :=
    UInt32.toNat_ofNat_of_lt' geometry.blockSize_lt
  have blocks : (fresh geometry).blocks.toNat = geometry.blocks :=
    UInt64.toNat_ofNat_of_lt' (show geometry.blocks < Limit.word64 by omega)
  simp only [Geometry.ofSizes, blockSize, blocks]
  rw [dif_neg (by omega), dif_neg (by omega), dif_neg (by omega), dif_pos geometry.addressable]

theorem find?_derivedFields (geometry : Geometry) (disk : Disk) :
    ((current geometry disk).derivedFields geometry).find?
      (fun (_, stored, derived) => stored ≠ derived) = none := by
  have total := sizes_lt geometry
  have sum := geometry.totalBlocks_eq
  have table := geometry.inodeCount_lt
  have dataStart : geometry.dataStart = geometry.firstInodeBlock + geometry.inodeTableBlocks := rfl
  have firstInodeBlock : geometry.firstInodeBlock = 1 + geometry.bitmapBlocks := rfl
  rw [List.find?_eq_none]
  intro field member
  simp only [derivedFields, current, fresh, List.mem_cons, List.not_mem_nil, or_false] at member
  rcases member with rfl | rfl | rfl | rfl | rfl <;>
    simp only [ne_eq, decide_not, Bool.not_eq_true', Bool.not_eq_false, decide_eq_true_eq] <;>
      exact UInt64.toNat_ofNat_of_lt' (show _ < Limit.word64 by omega)

end Superblock

variable {volume : Volume} {disk : Disk} {tree : Tree} {chain : Nat → List Nat}

namespace Represents

theorem counter_lt (represents : Represents volume.geometry disk tree chain) :
    disk.counter .freeBlocks < volume.geometry.blocks ∧
      disk.counter .nextFreeInode < volume.geometry.inodeCount := by
  refine ⟨?_, ?_⟩
  · rw [represents.stored.ledger.free]
    exact represents.stored.ledger.clearCount_lt
  · rw [represents.slotCursor]
    cases vacancy : tree.vacancy volume.geometry.inodeCount with
    | none => exact Nat.lt_of_lt_of_le (by decide) volume.geometry.four_le_inodeCount
    | some slot => exact (Tree.WellFormed.not_isLive_of_vacancy vacancy).2.1

/-- The superblock of an image in order agrees with the geometry. -/
theorem agree (represents : Represents volume.geometry disk tree chain) :
    (Superblock.current volume.geometry disk).agree volume.geometry = .ok () := by
  obtain ⟨freeBlocks, nextFreeInode⟩ := represents.counter_lt
  have total := Superblock.sizes_lt volume.geometry
  have sum := volume.geometry.totalBlocks_eq
  have table := volume.geometry.inodeCount_lt
  have dataStart : volume.geometry.dataStart =
      volume.geometry.firstInodeBlock + volume.geometry.inodeTableBlocks := rfl
  have firstInodeBlock : volume.geometry.firstInodeBlock = 1 + volume.geometry.bitmapBlocks := rfl
  have toNat {size : Nat} (bound : size < Limit.word64) : (UInt64.ofNat size).toNat = size :=
    UInt64.toNat_ofNat_of_lt' bound
  rw [Superblock.agree, Superblock.find?_derivedFields]
  dsimp only
  rw [if_neg, if_neg]
  · rw [UInt64.le_iff_toNat_le]
    change ¬ (UInt64.ofNat _).toNat ≤ (UInt64.ofNat _).toNat
    rw [toNat table, toNat (Nat.lt_trans nextFreeInode table)]
    omega
  · rw [UInt64.le_iff_toNat_le]
    change ¬ (UInt64.ofNat _).toNat ≤ (UInt64.ofNat _).toNat
    rw [toNat (by omega), toNat (by omega)]
    omega

theorem readSuperblock_answers (represents : Represents volume.geometry disk tree chain) :
    Answers volume volume.readSuperblock disk (.ok (Superblock.current volume.geometry disk)) := by
  have minimum := volume.geometry.minimum
  have behind := volume.geometry.data_start_le_imageLength
  have bitmapEnd := volume.geometry.bitmap_le
  have table := volume.geometry.firstInode_le_dataStart
  have start : volume.geometry.bitmapOffset = volume.geometry.blockSize := rfl
  have isLength : Superblock.length = 80 := rfl
  have reads : Answers volume (volume.device.read 0 Superblock.length) disk
      (.ok (Superblock.current volume.geometry disk).encode) := by
    refine Answers.read (by omega) ?_
    rintro content rfl
    exact Superblock.read_current represents.stored.fixed
  refine reads.bind (Answers.except ?_)
  have parsed : Superblock.parse (Superblock.current volume.geometry disk).encode =
      .ok (Superblock.current volume.geometry disk) := Superblock.parse_encode rfl
  rw [parsed]
  rfl

end Represents

end ImageFs
