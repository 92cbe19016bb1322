import ImageFs.Geometry
import ImageFs.Record.Superblock

/-!
The areas of an image: the counters of the superblock, the bitmap, the inode records, the payloads and links of the
data blocks. Main statements: two areas share no byte, and each byte of an image lies in an area or
among those that are written when the image is made.
-/

namespace ImageFs

theorem le_ceilDiv_mul {unit : Nat} (positive : 0 < unit) (n : Nat) :
    n ≤ ceilDiv n unit * unit := by
  have division := Nat.div_add_mod (n + unit - 1) unit
  have remainder := Nat.mod_lt (n + unit - 1) positive
  rw [ceilDiv, Nat.mul_comm]
  omega

theorem ceilDiv_le_of_le_mul {unit n count : Nat} (positive : 0 < unit) (fits : n ≤ count * unit) :
    ceilDiv n unit ≤ count := by
  rw [ceilDiv]
  have : (n + unit - 1) / unit < count + 1 :=
    (Nat.div_lt_iff_lt_mul positive).mpr (by rw [Nat.add_mul]; omega)
  omega

theorem ceilDiv_mono {first second : Nat} (unit : Nat) (le : first ≤ second) :
    ceilDiv first unit ≤ ceilDiv second unit :=
  Nat.div_le_div_right (by omega)

theorem ceilDiv_pos {n unit : Nat} (positive : 0 < unit) (n_pos : 0 < n) : 0 < ceilDiv n unit :=
  Nat.div_pos (by omega) positive

namespace Geometry

variable (geometry : Geometry)

theorem minimum : 1024 ≤ geometry.blockSize :=
  geometry.minimum_le

theorem payloadSize_add : geometry.payloadSize + 8 = geometry.blockSize := by
  have minimum := geometry.minimum
  simp only [payloadSize, linkLength]
  omega

theorem payloadSize_pos : 0 < geometry.payloadSize := by
  have minimum := geometry.minimum
  have sum := geometry.payloadSize_add
  omega

theorem bitmap_le :
    geometry.bitmapOffset + geometry.bitmapLength ≤
      geometry.firstInodeBlock * geometry.blockSize := by
  have minimum := geometry.minimum
  have positive : 0 < geometry.blockSize * 8 := by omega
  have bound := le_ceilDiv_mul positive geometry.blocks
  have bytes : geometry.bitmapLength ≤ geometry.bitmapBlocks * geometry.blockSize := by
    apply ceilDiv_le_of_le_mul (by omega)
    rw [Nat.mul_assoc]
    exact bound
  have start : geometry.firstInodeBlock = 1 + geometry.bitmapBlocks := rfl
  rw [start, Nat.add_mul, bitmapOffset]
  omega

theorem inodesPerBlock_mul : geometry.inodesPerBlock * 256 = geometry.blockSize :=
  Nat.div_mul_cancel (Nat.dvd_of_mod_eq_zero geometry.even)

theorem inodeCount_mul :
    geometry.inodeCount * 256 = geometry.inodeTableBlocks * geometry.blockSize := by
  rw [inodeCount, Nat.mul_assoc, inodesPerBlock_mul]

theorem records_end :
    geometry.firstInodeBlock * geometry.blockSize + geometry.inodeCount * 256 =
      geometry.dataStart * geometry.blockSize := by
  have start : geometry.dataStart = geometry.firstInodeBlock + geometry.inodeTableBlocks := rfl
  rw [inodeCount_mul, start, Nat.add_mul]

theorem inodeTableBlocks_pos : 0 < geometry.inodeTableBlocks := by
  have minimum := geometry.minimum
  exact ceilDiv_pos (Nat.div_pos (by simp only [recordLength]; omega) (by decide)) geometry.blocks_pos

theorem four_le_inodesPerBlock : 4 ≤ geometry.inodesPerBlock := by
  have minimum := geometry.minimum
  exact (Nat.le_div_iff_mul_le (by decide)).mpr (by simp only [recordLength]; omega)

theorem four_le_inodeCount : 4 ≤ geometry.inodeCount :=
  Nat.le_trans geometry.four_le_inodesPerBlock
    (Nat.le_mul_of_pos_left _ geometry.inodeTableBlocks_pos)

theorem two_le_dataStart : 2 ≤ geometry.dataStart := by
  have table := geometry.inodeTableBlocks_pos
  have start : geometry.dataStart = 1 + geometry.bitmapBlocks + geometry.inodeTableBlocks := rfl
  omega

theorem totalBlocks_eq : geometry.totalBlocks = geometry.dataStart + geometry.blocks := rfl

theorem block_end_le {block other : Nat} (before : block < other) :
    block * geometry.blockSize + geometry.blockSize ≤ other * geometry.blockSize := by
  rw [← Nat.succ_mul]
  exact Nat.mul_le_mul_right _ before

def IsData (block : Nat) : Prop :=
  geometry.dataStart ≤ block ∧ block < geometry.totalBlocks

instance (block : Nat) : Decidable (geometry.IsData block) :=
  inferInstanceAs (Decidable (_ ∧ _))

variable {geometry} in
theorem bitOfBlock?_of_isData {block : Nat} (isData : geometry.IsData block) :
    geometry.bitOfBlock? block = some (block - geometry.dataStart) :=
  if_pos isData

variable {geometry} in
theorem bitOfBlock?_of_not_isData {block : Nat} (outside : ¬ geometry.IsData block) :
    geometry.bitOfBlock? block = none :=
  if_neg outside

theorem isData_anchorBlock : geometry.IsData geometry.anchorBlock := by
  have positive := geometry.blocks_pos
  exact ⟨Nat.le_refl _, by rw [totalBlocks_eq, anchorBlock]; omega⟩

theorem data_start_le {block : Nat} (isData : geometry.IsData block) :
    geometry.dataStart * geometry.blockSize ≤ block * geometry.blockSize :=
  Nat.mul_le_mul_right _ isData.1

theorem data_end_le {block : Nat} (isData : geometry.IsData block) :
    block * geometry.blockSize + geometry.blockSize ≤ geometry.imageLength :=
  geometry.block_end_le isData.2

theorem firstInode_le_dataStart :
    geometry.firstInodeBlock * geometry.blockSize ≤ geometry.dataStart * geometry.blockSize := by
  rw [← records_end]
  omega

theorem data_start_le_imageLength :
    geometry.dataStart * geometry.blockSize ≤ geometry.imageLength :=
  Nat.mul_le_mul_right _ (by rw [totalBlocks_eq]; omega)

end Geometry

/-! Areas -/

/-- The fields of the superblock that change while an image lives. -/
inductive Counter where
  | freeBlocks
  | nextFreeBlock
  | nextFreeInode
deriving DecidableEq

def Counter.offset : Counter → Nat
  | freeBlocks => Superblock.freeBlocksOffset
  | nextFreeBlock => Superblock.nextFreeBlockOffset
  | nextFreeInode => Superblock.nextFreeInodeOffset

inductive Area where
  | counter (which : Counter)
  | bitmap
  | holders
  | record (inode : Nat)
  | payload (block : Nat)
  | link (block : Nat)
deriving DecidableEq

namespace Area

/-- The bytes at the start of a payload that count the holders of the directory lock. -/
def reserved (geometry : Geometry) (block : Nat) : Nat :=
  if block = geometry.anchorBlock then linkLength else 0

variable (geometry : Geometry)

theorem reserved_le (block : Nat) : reserved geometry block ≤ 8 := by
  rw [reserved]
  split <;> simp [linkLength]

def first : Area → Nat
  | counter which => which.offset
  | bitmap => geometry.bitmapOffset
  | holders => geometry.anchorBlock * geometry.blockSize
  | record inode => geometry.firstInodeBlock * geometry.blockSize + inode * recordLength
  | payload block => block * geometry.blockSize + reserved geometry block
  | link block => block * geometry.blockSize + geometry.payloadSize

def length : Area → Nat
  | counter _ | holders | link _ => 8
  | bitmap => geometry.bitmapLength
  | record _ => recordLength
  | payload block => geometry.payloadSize - reserved geometry block

def Valid : Area → Prop
  | record inode => inode < geometry.inodeCount
  | payload block | link block => geometry.IsData block
  | _ => True

def Covers (area : Area) (position : Nat) : Prop :=
  area.first geometry ≤ position ∧ position < area.first geometry + area.length geometry

/-- The area lies before the other one. -/
def Before (area other : Area) : Prop :=
  area.first geometry + area.length geometry ≤ other.first geometry

theorem counter_apart {which other : Counter} (different : which ≠ other) :
    which.offset + 8 ≤ other.offset ∨ other.offset + 8 ≤ which.offset := by
  cases which <;> cases other <;> first | exact absurd rfl different | decide

theorem counter_end_le (which : Counter) :
    (counter which).first geometry + (counter which).length geometry ≤ geometry.bitmapOffset := by
  have minimum := geometry.minimum
  cases which <;> simp only [first, length, Counter.offset, Geometry.bitmapOffset,
    Superblock.freeBlocksOffset, Superblock.nextFreeBlockOffset,
    Superblock.nextFreeInodeOffset] <;> omega

theorem record_end_le {inode : Nat} (valid : inode < geometry.inodeCount) :
    (record inode).first geometry + (record inode).length geometry ≤
      geometry.dataStart * geometry.blockSize := by
  have tableEnd := geometry.records_end
  simp only [first, length, recordLength]
  omega

/-- The parts of a block. -/
inductive InBlock : Nat → Area → Prop where
  | holders : InBlock geometry.anchorBlock holders
  | payload (block : Nat) : InBlock block (payload block)
  | link (block : Nat) : InBlock block (link block)

variable {geometry}

theorem InBlock.range {block : Nat} {area : Area} (inBlock : InBlock geometry block area) :
    block * geometry.blockSize ≤ area.first geometry ∧
      area.first geometry + area.length geometry ≤
        block * geometry.blockSize + geometry.blockSize := by
  have sum := geometry.payloadSize_add
  have minimum := geometry.minimum
  cases inBlock with
  | holders =>
      simp only [first, length]
      omega
  | payload block =>
      have reserved := reserved_le geometry block
      simp only [first, length]
      omega
  | link block =>
      simp only [first, length]
      omega

/-- What covers a position and lies in a block tells which block it is. -/
theorem InBlock.div_eq {block position : Nat} {area : Area} (inBlock : InBlock geometry block area)
    (covers : area.Covers geometry position) : position / geometry.blockSize = block := by
  have range := inBlock.range
  unfold Covers at covers
  apply Nat.div_eq_of_lt_le
  · omega
  · rw [Nat.succ_mul]
    omega

theorem InBlock.before {block other : Nat} {area area' : Area} (less : block < other)
    (inBlock : InBlock geometry block area) (inBlock' : InBlock geometry other area') :
    area.Before geometry area' := by
  have range := inBlock.range
  have range' := inBlock'.range
  have blocks := geometry.block_end_le less
  rw [Before]
  omega

theorem InBlock.apart {block : Nat} {area area' : Area} (different : area ≠ area')
    (inBlock : InBlock geometry block area) (inBlock' : InBlock geometry block area') :
    area.Before geometry area' ∨ area'.Before geometry area := by
  have sum := geometry.payloadSize_add
  have minimum := geometry.minimum
  cases inBlock with
  | holders =>
      cases inBlock' with
      | holders => exact absurd rfl different
      | payload =>
          refine .inl ?_
          simp only [Before, first, length, reserved, linkLength, if_true]
          omega
      | link =>
          refine .inl ?_
          simp only [Before, first, length]
          omega
  | payload =>
      cases inBlock' with
      | holders =>
          refine .inr ?_
          simp only [Before, first, length, reserved, linkLength, if_true]
          omega
      | payload => exact absurd rfl different
      | link =>
          have reserved := reserved_le geometry block
          refine .inl ?_
          simp only [Before, first, length]
          omega
  | link =>
      cases inBlock' with
      | holders =>
          refine .inr ?_
          simp only [Before, first, length]
          omega
      | payload =>
          have reserved := reserved_le geometry block
          refine .inr ?_
          simp only [Before, first, length]
          omega
      | link => exact absurd rfl different

/-- Where an area lies: in the superblock, in the bitmap, in the inode table or in a data block. -/
inductive Located : Area → Prop where
  | superblock (which : Counter) : Located (counter which)
  | bitmap : Located bitmap
  | record {inode : Nat} (valid : inode < geometry.inodeCount) : Located (record inode)
  | block {block : Nat} {area : Area} (isData : geometry.IsData block)
      (inBlock : InBlock geometry block area) : Located area

theorem Valid.located {area : Area} (valid : area.Valid geometry) :
    @Located geometry area := by
  cases area with
  | counter which => exact .superblock which
  | bitmap => exact .bitmap
  | holders => exact .block geometry.isData_anchorBlock .holders
  | record inode => exact .record valid
  | payload block => exact .block valid (.payload block)
  | link block => exact .block valid (.link block)

theorem apart {area other : Area} (valid : area.Valid geometry) (valid' : other.Valid geometry)
    (different : area ≠ other) : area.Before geometry other ∨ other.Before geometry area := by
  have bitmapEnd := geometry.bitmap_le
  have recordsStart := geometry.firstInode_le_dataStart
  cases valid.located with
  | superblock which =>
      have early := counter_end_le geometry which
      cases valid'.located with
      | superblock other =>
          exact counter_apart fun equal => different (by rw [equal])
      | bitmap => exact .inl early
      | record => exact .inl (by simp only [Before, first] at early ⊢; omega)
      | block isData inBlock =>
          have start := geometry.data_start_le isData
          have range := inBlock.range
          exact .inl (by rw [Before]; omega)
  | bitmap =>
      cases valid'.located with
      | superblock which => exact .inr (counter_end_le geometry which)
      | bitmap => exact absurd rfl different
      | record => exact .inl (by simp only [Before, first, length]; omega)
      | block isData inBlock =>
          have start := geometry.data_start_le isData
          have range := inBlock.range
          exact .inl (by simp only [Before, first, length] at range ⊢; omega)
  | @record inode valid =>
      have recordEnd := record_end_le geometry valid
      cases valid'.located with
      | superblock which =>
          have early := counter_end_le geometry which
          exact .inr (by simp only [Before, first] at early ⊢; omega)
      | bitmap => exact .inr (by simp only [Before, first, length]; omega)
      | @record other _ =>
          have : inode ≠ other := fun equal => different (by rw [equal])
          simp only [Before, first, length, recordLength]
          omega
      | block isData inBlock =>
          have start := geometry.data_start_le isData
          have range := inBlock.range
          exact .inl (by rw [Before]; omega)
  | @block block area isData inBlock =>
      have start := geometry.data_start_le isData
      have range := inBlock.range
      cases valid'.located with
      | superblock which =>
          have early := counter_end_le geometry which
          exact .inr (by rw [Before]; omega)
      | bitmap =>
          refine .inr ?_
          change geometry.bitmapOffset + geometry.bitmapLength ≤ area.first geometry
          omega
      | record valid' =>
          have recordEnd := record_end_le geometry valid'
          exact .inr (by rw [Before]; omega)
      | @block other _ isData' inBlock' =>
          rcases Nat.lt_trichotomy block other with less | equal | greater
          · exact .inl (inBlock.before less inBlock')
          · subst equal
            exact inBlock.apart different inBlock'
          · exact .inr (inBlock'.before greater inBlock)

theorem stop_le_imageLength (area : Area) (valid : area.Valid geometry) :
    area.first geometry + area.length geometry ≤ geometry.imageLength := by
  have bitmapEnd := geometry.bitmap_le
  have recordsStart := geometry.firstInode_le_dataStart
  have dataStart := geometry.data_start_le_imageLength
  cases valid.located with
  | superblock which =>
      have early := counter_end_le geometry which
      omega
  | bitmap => simp only [first, length]; omega
  | record valid =>
      have recordEnd := record_end_le geometry valid
      omega
  | block isData inBlock =>
      have range := inBlock.range
      have blockEnd := geometry.data_end_le isData
      omega

/-! Bytes in no area -/

variable (geometry)

/-- The position is in no area: it is among the fixed fields of the superblock, in the padding of
the superblock or the bitmap, or behind the image. -/
def Outside (position : Nat) : Prop :=
  position < 16 ∨ (32 ≤ position ∧ position < 64) ∨
    (72 ≤ position ∧ position < geometry.bitmapOffset) ∨
    (geometry.bitmapOffset + geometry.bitmapLength ≤ position ∧
      position < geometry.firstInodeBlock * geometry.blockSize) ∨
    geometry.imageLength ≤ position

instance (position : Nat) : Decidable (Outside geometry position) :=
  inferInstanceAs (Decidable (_ ∨ _ ∨ _ ∨ _ ∨ _))

variable {geometry}

theorem not_covers_of_outside {area : Area} (valid : area.Valid geometry) {position : Nat}
    (outside : Outside geometry position) : ¬ area.Covers geometry position := by
  rintro ⟨behind, before⟩
  have stop := stop_le_imageLength area valid
  have bitmapEnd := geometry.bitmap_le
  have recordsStart := geometry.firstInode_le_dataStart
  have minimum := geometry.minimum
  have start : geometry.bitmapOffset = geometry.blockSize := rfl
  cases valid.located with
  | superblock which =>
      cases which <;> simp only [first, length, Outside, Counter.offset,
        Superblock.freeBlocksOffset, Superblock.nextFreeBlockOffset,
        Superblock.nextFreeInodeOffset] at behind before outside stop <;> omega
  | bitmap => simp only [first, length, Outside] at *; omega
  | record valid =>
      have recordEnd := record_end_le geometry valid
      simp only [first, length, Outside] at *
      omega
  | block isData inBlock =>
      have dataStart := geometry.data_start_le isData
      have range := inBlock.range
      rw [Outside] at outside
      omega

theorem exists_covers {position : Nat} (inside : ¬ Outside geometry position) :
    ∃ area : Area, area.Valid geometry ∧ area.Covers geometry position := by
  have tableEnd := geometry.records_end
  rw [Outside] at inside
  by_cases table : position < geometry.firstInodeBlock * geometry.blockSize
  · by_cases early : position < geometry.bitmapOffset
    · by_cases low : position < 32
      · by_cases lower : position < 24
        · exact ⟨counter .freeBlocks, trivial, by
            simp only [Covers, first, length, Counter.offset, Superblock.freeBlocksOffset]; omega⟩
        · exact ⟨counter .nextFreeBlock, trivial, by
            simp only [Covers, first, length, Counter.offset, Superblock.nextFreeBlockOffset]; omega⟩
      · exact ⟨counter .nextFreeInode, trivial, by
          simp only [Covers, first, length, Counter.offset, Superblock.nextFreeInodeOffset]; omega⟩
    · exact ⟨bitmap, trivial, by simp only [Covers, first, length]; omega⟩
  · by_cases data : position < geometry.dataStart * geometry.blockSize
    · refine ⟨record ((position - geometry.firstInodeBlock * geometry.blockSize) / recordLength),
        ?_, ?_⟩
      · exact (Nat.div_lt_iff_lt_mul (by decide)).mpr (by simp only [recordLength]; omega)
      · simp only [Covers, first, length, recordLength]
        omega
    · have minimum := geometry.minimum
      have sum := geometry.payloadSize_add
      have division := Nat.div_add_mod position geometry.blockSize
      have remainder := Nat.mod_lt position (show 0 < geometry.blockSize by omega)
      have below : position < geometry.totalBlocks * geometry.blockSize := by
        change position < geometry.imageLength
        omega
      have isData : geometry.IsData (position / geometry.blockSize) :=
        ⟨(Nat.le_div_iff_mul_le (by omega)).mpr (by omega),
          (Nat.div_lt_iff_lt_mul (by omega)).mpr below⟩
      rw [Nat.mul_comm] at division
      by_cases inLink : geometry.payloadSize ≤ position % geometry.blockSize
      · exact ⟨link _, isData, by simp only [Covers, first, length]; omega⟩
      · by_cases inPayload :
            reserved geometry (position / geometry.blockSize) ≤ position % geometry.blockSize
        · exact ⟨payload _, isData, by simp only [Covers, first, length]; omega⟩
        · rw [reserved] at inPayload
          split at inPayload
          · next anchor =>
            rw [anchor] at division
            simp only [linkLength] at inPayload
            exact ⟨holders, trivial, by simp only [Covers, first, length]; omega⟩
          · exact absurd (Nat.zero_le _) inPayload

end Area

end ImageFs
