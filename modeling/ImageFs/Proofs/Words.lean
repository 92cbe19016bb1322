import ImageFs.Proofs.Header

/-!
The quantities of a geometry in words of 64 bits, with the sums and products that words have. Main
statements: whatever the sizes, no sum and no product is too large for a word, and the words are those of
the geometry.
-/

namespace ImageFs

/-! Arithmetic of words -/

namespace Word

/-- The sum, when it is a word. -/
def add? (first second : UInt64) : Option UInt64 :=
  if first.toNat + second.toNat < Limit.word64 then some (first + second) else none

/-- The product, when it is a word. -/
def mul? (first second : UInt64) : Option UInt64 :=
  if first.toNat * second.toNat < Limit.word64 then some (first * second) else none

/-- The sum, or the largest word when the sum is none. -/
def saturatingAdd (first second : UInt64) : UInt64 :=
  (add? first second).getD (UInt64.ofNat (Limit.word64 - 1))

/-- The product, or the largest word when the product is none. -/
def saturatingMul (first second : UInt64) : UInt64 :=
  (mul? first second).getD (UInt64.ofNat (Limit.word64 - 1))

/-- The quotient, rounded up. -/
def ceilDiv (word unit : UInt64) : UInt64 :=
  if word % unit = 0 then word / unit else word / unit + 1

variable {first second : UInt64}

theorem add?_of_lt (fits : first.toNat + second.toNat < Limit.word64) :
    ∃ sum, add? first second = some sum ∧ sum.toNat = first.toNat + second.toNat := by
  refine ⟨first + second, if_pos fits, ?_⟩
  rw [UInt64.toNat_add]
  exact Nat.mod_eq_of_lt fits

theorem mul?_of_lt (fits : first.toNat * second.toNat < Limit.word64) :
    ∃ product, mul? first second = some product ∧
      product.toNat = first.toNat * second.toNat := by
  refine ⟨first * second, if_pos fits, ?_⟩
  rw [UInt64.toNat_mul]
  exact Nat.mod_eq_of_lt fits

theorem toNat_saturatingAdd (fits : first.toNat + second.toNat < Limit.word64) :
    (saturatingAdd first second).toNat = first.toNat + second.toNat := by
  obtain ⟨sum, isSum, exact⟩ := add?_of_lt fits
  unfold saturatingAdd
  rw [isSum]
  exact exact

theorem toNat_saturatingMul (fits : first.toNat * second.toNat < Limit.word64) :
    (saturatingMul first second).toNat = first.toNat * second.toNat := by
  obtain ⟨product, isProduct, exact⟩ := mul?_of_lt fits
  unfold saturatingMul
  rw [isProduct]
  exact exact

theorem mul?_eq_none_iff :
    mul? first second = none ↔ Limit.word64 ≤ first.toNat * second.toNat := by
  unfold mul?
  split
  · next fits => simp [Nat.not_le.mpr fits]
  · next large => simp [Nat.not_lt.mp large]

theorem toNat_ceilDiv {word unit : UInt64} (positive : 0 < unit.toNat) :
    (ceilDiv word unit).toNat = ImageFs.ceilDiv word.toNat unit.toNat := by
  have division := Nat.div_add_mod word.toNat unit.toNat
  have remainder := Nat.mod_lt word.toNat positive
  have isWord := word.toNat_lt
  have isZero : word % unit = 0 ↔ word.toNat % unit.toNat = 0 := by
    rw [← UInt64.toNat_inj, UInt64.toNat_mod]
    rfl
  unfold ceilDiv ImageFs.ceilDiv
  symm
  by_cases whole : word.toNat % unit.toNat = 0
  · rw [if_pos (isZero.mpr whole), UInt64.toNat_div]
    apply Nat.div_eq_of_lt_le
    · rw [Nat.mul_comm]
      omega
    · rw [Nat.succ_mul, Nat.mul_comm]
      omega
  · rw [if_neg (mt isZero.mp whole), UInt64.toNat_add, UInt64.toNat_div]
    -- a unit that leaves a remainder is at least two, so that the quotient is at most half a word
    have half : 2 * (word.toNat / unit.toNat) ≤ unit.toNat * (word.toNat / unit.toNat) :=
      Nat.mul_le_mul_right _ (by omega)
    rw [Nat.mod_eq_of_lt (show word.toNat / unit.toNat + (1 : UInt64).toNat < 2 ^ 64 by
      simp only [UInt64.toNat_one]
      omega)]
    apply Nat.div_eq_of_lt_le
    · rw [UInt64.toNat_one, Nat.succ_mul, Nat.mul_comm]
      omega
    · rw [UInt64.toNat_one, Nat.succ_mul, Nat.succ_mul, Nat.mul_comm]
      omega

end Word

/-! Layouts -/

/-- The quantities of a geometry in words. -/
structure Layout where
  blockSize : UInt32
  blocks : UInt64
  bitmapBlocks : UInt64
  inodeTableBlocks : UInt64
  firstInodeBlock : UInt64
  dataStart : UInt64
  inodeCount : UInt64
deriving DecidableEq, Repr

namespace Layout

/-- The quantities that follow from the sizes, unless a sum or a product is no word. -/
def derive? (blockSize : UInt32) (blocks : UInt64) : Option Layout := do
  let bitsPerBlock ← Word.mul? blockSize.toUInt64 8
  let inodesPerBlock := blockSize.toUInt64 / 256
  let bitmapBlocks := Word.ceilDiv blocks bitsPerBlock
  let inodeTableBlocks := Word.ceilDiv blocks inodesPerBlock
  let firstInodeBlock ← Word.add? 1 bitmapBlocks
  let dataStart ← Word.add? firstInodeBlock inodeTableBlocks
  let inodeCount ← Word.mul? inodeTableBlocks inodesPerBlock
  return { blockSize, blocks, bitmapBlocks, inodeTableBlocks, firstInodeBlock, dataStart, inodeCount }

variable (layout : Layout)

def totalBlocks : UInt64 :=
  Word.saturatingAdd layout.dataStart layout.blocks

def imageLength : UInt64 :=
  Word.saturatingMul layout.totalBlocks layout.blockSize.toUInt64

def inodesPerBlock : UInt64 :=
  layout.blockSize.toUInt64 / 256

/-- The layout of the given sizes, judged like those of a geometry; none when a sum or a product is no
word. -/
def compute (blockSize : UInt32) (blocks : UInt64) : Option (Except FsError Layout) :=
  let tooLarge := .error (.misfit (.addressSpace blocks.toNat blockSize.toNat))
  if blockSize < 1024 then some (.error (.blockSizeTooSmall blockSize.toNat))
  else if blockSize % 256 ≠ 0 then some (.error (.blockSizeUneven blockSize.toNat))
  else if blocks = 0 then some (.error .noBlocks)
  else if Word.mul? blocks blockSize.toUInt64 = none then some tooLarge
  else (derive? blockSize blocks).map fun layout =>
    if Word.mul? layout.totalBlocks blockSize.toUInt64 = none then tooLarge else .ok layout

/-! Addresses -/

def blockOffset (block : UInt64) : Option UInt64 :=
  if layout.totalBlocks ≤ block then none else Word.mul? block layout.blockSize.toUInt64

/-- Where the record of an inode starts, if there is one; none when a sum or a product is no word. -/
def inodeOffset (inode : UInt64) : Option (Option UInt64) :=
  if layout.inodeCount ≤ inode then some none
  else do
    let table ← Word.mul? layout.firstInodeBlock layout.blockSize.toUInt64
    let behind ← Word.mul? inode 256
    let offset ← Word.add? table behind
    return some offset

def inodeBlock (inode : UInt64) : Option UInt64 :=
  Word.add? layout.firstInodeBlock (inode / layout.inodesPerBlock)

def dataBlock (bit : UInt64) : Option UInt64 :=
  Word.add? layout.dataStart bit

def bitOf (block : UInt64) : Option UInt64 :=
  if block < layout.dataStart ∨ layout.totalBlocks ≤ block then none
  else some (block - layout.dataStart)

/-! Agreement with the numbers -/

/-- The words are the numbers that follow from the sizes. -/
structure Exact (size count : Nat) : Prop where
  blockSize : layout.blockSize.toNat = size
  blocks : layout.blocks.toNat = count
  bitmapBlocks : layout.bitmapBlocks.toNat = Sizes.bitmapBlocks size count
  inodeTableBlocks : layout.inodeTableBlocks.toNat = Sizes.inodeTableBlocks size count
  firstInodeBlock : layout.firstInodeBlock.toNat = Sizes.firstInodeBlock size count
  dataStart : layout.dataStart.toNat = Sizes.dataStart size count
  inodeCount : layout.inodeCount.toNat =
    Sizes.inodeTableBlocks size count * Sizes.inodesPerBlock size

end Layout

/-- Data blocks that can be addressed byte by byte leave room in a word for all that goes with them. -/
theorem Sizes.small {blockSize blocks : Nat} (minimum : 1024 ≤ blockSize)
    (fits : blocks * blockSize < Limit.word64) :
    blocks * 1024 < Limit.word64 ∧ bitmapBlocks blockSize blocks ≤ blocks ∧
      inodeTableBlocks blockSize blocks ≤ blocks ∧
      inodeTableBlocks blockSize blocks * inodesPerBlock blockSize ≤
        blocks + inodesPerBlock blockSize := by
  have perBlock : 0 < inodesPerBlock blockSize :=
    Nat.div_pos (by simp only [recordLength]; omega) (by decide)
  have rounded := Nat.div_mul_le_self (blocks + inodesPerBlock blockSize - 1)
    (inodesPerBlock blockSize)
  refine ⟨Nat.lt_of_le_of_lt (Nat.mul_le_mul_left blocks minimum) fits, ?_, ?_, ?_⟩
  · exact ceilDiv_le_of_le_mul (by omega) (Nat.le_mul_of_pos_right _ (by omega))
  · exact ceilDiv_le_of_le_mul perBlock (Nat.le_mul_of_pos_right _ perBlock)
  · unfold inodeTableBlocks ceilDiv
    omega

/-! Judging sizes -/

namespace Geometry

/-- What becomes of sizes. -/
inductive Judged (blockSize : UInt32) (blocks : UInt64) : Except FsError Geometry → Prop where
  | small (small : blockSize.toNat < 1024) :
      Judged blockSize blocks (.error (.blockSizeTooSmall blockSize.toNat))
  | uneven (minimum : 1024 ≤ blockSize.toNat) (uneven : blockSize.toNat % recordLength ≠ 0) :
      Judged blockSize blocks (.error (.blockSizeUneven blockSize.toNat))
  | vacant (minimum : 1024 ≤ blockSize.toNat) (even : blockSize.toNat % recordLength = 0)
      (vacant : blocks.toNat = 0) : Judged blockSize blocks (.error .noBlocks)
  | large (minimum : 1024 ≤ blockSize.toNat) (even : blockSize.toNat % recordLength = 0)
      (positive : blocks.toNat ≠ 0)
      (large : Limit.word64 ≤ Sizes.totalBlocks blockSize.toNat blocks.toNat * blockSize.toNat) :
      Judged blockSize blocks (.error (.misfit (.addressSpace blocks.toNat blockSize.toNat)))
  | accepted (geometry : Geometry) (isSize : geometry.blockSize = blockSize.toNat)
      (isCount : geometry.blocks = blocks.toNat) : Judged blockSize blocks (.ok geometry)

variable (blockSize : UInt32) (blocks : UInt64)

theorem ofSizes_judged : Judged blockSize blocks (ofSizes blockSize blocks) := by
  unfold ofSizes
  split
  · next small => exact .small small
  · next minimum =>
    split
    · next uneven => exact .uneven (Nat.le_of_not_lt minimum) uneven
    · next even =>
      split
      · next vacant => exact .vacant (Nat.le_of_not_lt minimum) (not_not.mp even) vacant
      · next positive =>
        split
        · exact .accepted _ rfl rfl
        · next large =>
          exact .large (Nat.le_of_not_lt minimum) (not_not.mp even) positive (Nat.le_of_not_lt large)

theorem ofSizes_ok_iff : (∃ geometry, ofSizes blockSize blocks = .ok geometry) ↔
    1024 ≤ blockSize.toNat ∧ blockSize.toNat % recordLength = 0 ∧ 0 < blocks.toNat ∧
      Sizes.totalBlocks blockSize.toNat blocks.toNat * blockSize.toNat < Limit.word64 := by
  have judged := ofSizes_judged blockSize blocks
  constructor
  · rintro ⟨geometry, accepted⟩
    rw [accepted] at judged
    cases judged with
    | accepted _ isSize isCount =>
        rw [← isSize, ← isCount]
        exact ⟨geometry.minimum_le, geometry.even, geometry.blocks_pos, geometry.addressable⟩
  · rintro ⟨minimum, even, positive, fits⟩
    cases answer : ofSizes blockSize blocks with
    | ok geometry => exact ⟨geometry, rfl⟩
    | error error =>
        rw [answer] at judged
        cases judged <;> omega

end Geometry

theorem Sizes.totalBlocks_lt {blockSize blocks : Nat} (minimum : 1024 ≤ blockSize)
    (fits : blocks * blockSize < Limit.word64) : totalBlocks blockSize blocks < Limit.word64 := by
  obtain ⟨small, bitmapSmall, tableSmall, -⟩ := small minimum fits
  have limit : Limit.word64 = 2 ^ 64 := rfl
  change 1 + bitmapBlocks blockSize blocks + inodeTableBlocks blockSize blocks + blocks < _
  omega

namespace Layout

variable {blockSize : UInt32} {blocks : UInt64}

theorem derive?_exact (minimum : 1024 ≤ blockSize.toNat)
    (fits : blocks.toNat * blockSize.toNat < Limit.word64) :
    ∃ layout, derive? blockSize blocks = some layout ∧
      layout.Exact blockSize.toNat blocks.toNat := by
  obtain ⟨small, bitmapSmall, tableSmall, countSmall⟩ := Sizes.small minimum fits
  have limit : Limit.word64 = 2 ^ 64 := rfl
  have narrow := blockSize.toNat_lt
  have size : blockSize.toUInt64.toNat = blockSize.toNat := UInt32.toNat_toUInt64 blockSize
  have perBlock : (blockSize.toUInt64 / 256).toNat = Sizes.inodesPerBlock blockSize.toNat := by
    rw [UInt64.toNat_div, size]
    rfl
  have perBlockLt : Sizes.inodesPerBlock blockSize.toNat ≤ blockSize.toNat := Nat.div_le_self _ _
  have perBlockPos : 0 < Sizes.inodesPerBlock blockSize.toNat :=
    Nat.div_pos (by simp only [recordLength]; omega) (by decide)
  obtain ⟨bits, isBits, bitsExact⟩ := @Word.mul?_of_lt blockSize.toUInt64 8
    (by rw [size]; change _ * 8 < _; omega)
  rw [size] at bitsExact
  have bitmap : (Word.ceilDiv blocks bits).toNat = Sizes.bitmapBlocks blockSize.toNat blocks.toNat := by
    rw [Word.toNat_ceilDiv (by rw [bitsExact]; change 0 < _ * 8; omega), bitsExact]
    rfl
  have table : (Word.ceilDiv blocks (blockSize.toUInt64 / 256)).toNat =
      Sizes.inodeTableBlocks blockSize.toNat blocks.toNat := by
    rw [Word.toNat_ceilDiv (by rwa [perBlock]), perBlock]
    rfl
  obtain ⟨first, isFirst, firstExact⟩ := @Word.add?_of_lt 1 (Word.ceilDiv blocks bits)
    (by rw [bitmap]; change 1 + _ < _; omega)
  obtain ⟨start, isStart, startExact⟩ := @Word.add?_of_lt first
    (Word.ceilDiv blocks (blockSize.toUInt64 / 256))
    (by rw [firstExact, bitmap, table]; change 1 + _ + _ < _; omega)
  obtain ⟨count, isCount, countExact⟩ := @Word.mul?_of_lt
    (Word.ceilDiv blocks (blockSize.toUInt64 / 256)) (blockSize.toUInt64 / 256)
    (by rw [table, perBlock]; omega)
  refine ⟨⟨blockSize, blocks, Word.ceilDiv blocks bits,
    Word.ceilDiv blocks (blockSize.toUInt64 / 256), first, start, count⟩, ?_, ?_⟩
  · unfold derive?
    rw [isBits]
    simp only [Option.bind_eq_bind, Option.bind_some, isFirst, isStart, isCount]
    rfl
  · refine ⟨rfl, rfl, bitmap, table, ?_, ?_, ?_⟩
    · rw [firstExact, bitmap]
      rfl
    · rw [startExact, firstExact, bitmap, table]
      rfl
    · rw [countExact, table, perBlock]

theorem Exact.totalBlocks {layout : Layout} {size count : Nat} (exact : layout.Exact size count)
    (fits : Sizes.totalBlocks size count < Limit.word64) :
    layout.totalBlocks.toNat = Sizes.totalBlocks size count := by
  have sum : layout.dataStart.toNat + layout.blocks.toNat = Sizes.totalBlocks size count := by
    rw [exact.dataStart, exact.blocks]
    rfl
  unfold Layout.totalBlocks
  rw [Word.toNat_saturatingAdd (by rwa [sum]), sum]

theorem small_iff : blockSize < 1024 ↔ blockSize.toNat < 1024 :=
  UInt32.lt_iff_toNat_lt

theorem even_iff : blockSize % 256 = 0 ↔ blockSize.toNat % recordLength = 0 := by
  rw [← UInt32.toNat_inj, UInt32.toNat_mod]
  rfl

theorem vacant_iff : blocks = 0 ↔ blocks.toNat = 0 := by
  rw [← UInt64.toNat_inj]
  rfl

/-- Sizes that pass the first judgements are judged by the length of the image. -/
theorem compute_of_positive (minimum : 1024 ≤ blockSize.toNat)
    (even : blockSize.toNat % recordLength = 0) (positive : blocks.toNat ≠ 0) :
    (Limit.word64 ≤ Sizes.totalBlocks blockSize.toNat blocks.toNat * blockSize.toNat →
      compute blockSize blocks =
        some (.error (.misfit (.addressSpace blocks.toNat blockSize.toNat)))) ∧
    (Sizes.totalBlocks blockSize.toNat blocks.toNat * blockSize.toNat < Limit.word64 →
      ∃ layout, compute blockSize blocks = some (.ok layout) ∧
        layout.Exact blockSize.toNat blocks.toNat) := by
  have size : blockSize.toUInt64.toNat = blockSize.toNat := UInt32.toNat_toUInt64 blockSize
  unfold compute
  dsimp only
  rw [if_neg (mt small_iff.mp (Nat.not_lt.mpr minimum)), if_neg (not_not.mpr (even_iff.mpr even)),
    if_neg (mt vacant_iff.mp positive)]
  have data : blocks.toNat ≤ Sizes.totalBlocks blockSize.toNat blocks.toNat := Nat.le_add_left _ _
  by_cases fits : blocks.toNat * blockSize.toNat < Limit.word64
  · have word : ¬ Word.mul? blocks blockSize.toUInt64 = none := by
      rw [Word.mul?_eq_none_iff, size]
      exact Nat.not_le.mpr fits
    obtain ⟨layout, derived, exact⟩ := derive?_exact minimum fits
    have whole : Word.mul? layout.totalBlocks blockSize.toUInt64 = none ↔
        Limit.word64 ≤ Sizes.totalBlocks blockSize.toNat blocks.toNat * blockSize.toNat := by
      rw [Word.mul?_eq_none_iff, size, exact.totalBlocks (Sizes.totalBlocks_lt minimum fits)]
    rw [if_neg word, derived, Option.map_some]
    refine ⟨fun large => ?_, fun fits => ⟨layout, ?_, exact⟩⟩
    · rw [if_pos (whole.mpr large)]
    · rw [if_neg (mt whole.mp (Nat.not_le.mpr fits))]
  · have word : Word.mul? blocks blockSize.toUInt64 = none := by
      rw [Word.mul?_eq_none_iff, size]
      exact Nat.le_of_not_lt fits
    refine ⟨fun _ => if_pos word, fun whole => absurd ?_ fits⟩
    exact Nat.lt_of_le_of_lt (Nat.mul_le_mul_right _ data) whole

/-- Sizes are judged in words as they are in numbers, with the same quantities. -/
theorem compute_exact (blockSize : UInt32) (blocks : UInt64) :
    (∀ error, Geometry.ofSizes blockSize blocks = .error error →
      compute blockSize blocks = some (.error error)) ∧
    ∀ geometry, Geometry.ofSizes blockSize blocks = .ok geometry →
      ∃ layout, compute blockSize blocks = some (.ok layout) ∧
        layout.Exact geometry.blockSize geometry.blocks := by
  have judged := Geometry.ofSizes_judged blockSize blocks
  refine ⟨fun error refused => ?_, fun geometry accepted => ?_⟩
  · rw [refused] at judged
    cases judged with
    | small small => exact if_pos (small_iff.mpr small)
    | uneven minimum uneven =>
        unfold compute
        exact (if_neg (mt small_iff.mp (Nat.not_lt.mpr minimum))).trans
          (if_pos (mt even_iff.mp uneven))
    | vacant minimum even vacant =>
        unfold compute
        exact (if_neg (mt small_iff.mp (Nat.not_lt.mpr minimum))).trans
          ((if_neg (not_not.mpr (even_iff.mpr even))).trans (if_pos (vacant_iff.mpr vacant)))
    | large minimum even positive large => exact (compute_of_positive minimum even positive).1 large
  · rw [accepted] at judged
    cases judged with
    | accepted _ isSize isCount =>
        have positive := geometry.blocks_pos
        rw [isSize, isCount]
        apply (compute_of_positive ?_ ?_ ?_).2
        · rw [← isSize, ← isCount]
          exact geometry.addressable
        · rw [← isSize]
          exact geometry.minimum_le
        · rw [← isSize]
          exact geometry.even
        · omega

/-! Addresses in words -/

/-- The words that the addresses come out as are the numbers of the geometry. -/
structure Addresses (layout : Layout) (geometry : Geometry) : Prop where
  totalBlocks : layout.totalBlocks.toNat = geometry.totalBlocks
  imageLength : layout.imageLength.toNat = geometry.imageLength
  blockOffset : ∀ block, (layout.blockOffset block).map UInt64.toNat =
    geometry.blockOffset? block.toNat
  inodeOffset : ∀ inode, (layout.inodeOffset inode).map (Option.map UInt64.toNat) =
    some (geometry.inodeOffset? inode.toNat)
  inodeBlock : ∀ inode, (layout.inodeBlock inode).map UInt64.toNat =
    some (geometry.inodeBlock inode.toNat)
  dataBlock : ∀ bit, bit.toNat < geometry.blocks →
    (layout.dataBlock bit).map UInt64.toNat = some (geometry.blockOfBit bit.toNat)
  bitOf : ∀ block, (layout.bitOf block).map UInt64.toNat = geometry.bitOfBlock? block.toNat

namespace Exact

variable {layout : Layout} {geometry : Geometry}
  (exact : layout.Exact geometry.blockSize geometry.blocks)

include exact

theorem size_eq : layout.blockSize.toUInt64.toNat = geometry.blockSize := by
  rw [UInt32.toNat_toUInt64, exact.blockSize]

theorem total_eq : layout.totalBlocks.toNat = geometry.totalBlocks :=
  exact.totalBlocks (Superblock.sizes_lt geometry)

theorem imageLength_eq : layout.imageLength.toNat = geometry.imageLength := by
  have addressable : geometry.imageLength < Limit.word64 := geometry.addressable
  unfold Layout.imageLength
  rw [Word.toNat_saturatingMul, exact.total_eq, exact.size_eq]
  · rfl
  · rw [exact.total_eq, exact.size_eq]
    exact addressable

theorem inodesPerBlock_eq : layout.inodesPerBlock.toNat = geometry.inodesPerBlock := by
  unfold Layout.inodesPerBlock
  rw [UInt64.toNat_div, exact.size_eq]
  rfl

theorem blockOffset_eq (block : UInt64) :
    (layout.blockOffset block).map UInt64.toNat = geometry.blockOffset? block.toNat := by
  have behind : layout.totalBlocks ≤ block ↔ geometry.totalBlocks ≤ block.toNat := by
    rw [UInt64.le_iff_toNat_le, exact.total_eq]
  unfold Layout.blockOffset Geometry.blockOffset?
  by_cases inside : block.toNat < geometry.totalBlocks
  · have addressable : geometry.totalBlocks * geometry.blockSize < Limit.word64 :=
      geometry.addressable
    have offset := geometry.block_end_le inside
    obtain ⟨product, isProduct, equal⟩ := @Word.mul?_of_lt block layout.blockSize.toUInt64
      (by rw [exact.size_eq]; omega)
    rw [if_neg (mt behind.mp (Nat.not_le.mpr inside)), if_pos inside, isProduct, Option.map_some,
      equal, exact.size_eq]
  · rw [if_pos (behind.mpr (Nat.le_of_not_lt inside)), if_neg inside]
    rfl

theorem inodeOffset_eq (inode : UInt64) :
    (layout.inodeOffset inode).map (Option.map UInt64.toNat) =
      some (geometry.inodeOffset? inode.toNat) := by
  have first : layout.firstInodeBlock.toNat = geometry.firstInodeBlock := exact.firstInodeBlock
  have behind : layout.inodeCount ≤ inode ↔ geometry.inodeCount ≤ inode.toNat := by
    rw [UInt64.le_iff_toNat_le, exact.inodeCount]
    rfl
  unfold Layout.inodeOffset Geometry.inodeOffset?
  by_cases inside : inode.toNat < geometry.inodeCount
  · have addressable : geometry.imageLength < Limit.word64 := geometry.addressable
    have tableEnd := geometry.records_end
    have dataStart := geometry.data_start_le_imageLength
    obtain ⟨table, isTable, tableExact⟩ :=
      @Word.mul?_of_lt layout.firstInodeBlock layout.blockSize.toUInt64
        (by rw [first, exact.size_eq]; omega)
    obtain ⟨record, isRecord, recordExact⟩ := @Word.mul?_of_lt inode 256
      (by change _ * 256 < _; omega)
    rw [first, exact.size_eq] at tableExact
    change record.toNat = inode.toNat * recordLength at recordExact
    obtain ⟨offset, isOffset, offsetExact⟩ := @Word.add?_of_lt table record
      (by rw [tableExact, recordExact]; simp only [recordLength]; omega)
    rw [tableExact, recordExact] at offsetExact
    rw [if_neg (mt behind.mp (Nat.not_le.mpr inside)), if_pos inside, isTable]
    simp only [Option.bind_eq_bind, Option.bind_some, isRecord, isOffset, ← offsetExact]
    rfl
  · rw [if_pos (behind.mpr (Nat.le_of_not_lt inside)), if_neg inside]
    rfl

theorem inodeBlock_eq (inode : UInt64) :
    (layout.inodeBlock inode).map UInt64.toNat = some (geometry.inodeBlock inode.toNat) := by
  have limit : Limit.word64 = 2 ^ 64 := rfl
  have isWord := inode.toNat_lt
  have addressable : geometry.totalBlocks * geometry.blockSize < Limit.word64 :=
    geometry.addressable
  have small : geometry.totalBlocks * 1024 ≤ geometry.totalBlocks * geometry.blockSize :=
    Nat.mul_le_mul_left _ geometry.minimum
  have first : layout.firstInodeBlock.toNat = geometry.firstInodeBlock := exact.firstInodeBlock
  have front : geometry.totalBlocks =
      geometry.firstInodeBlock + geometry.inodeTableBlocks + geometry.blocks := rfl
  have quotient : (inode / layout.inodesPerBlock).toNat =
      inode.toNat / geometry.inodesPerBlock := by
    rw [UInt64.toNat_div, exact.inodesPerBlock_eq]
  -- a block holds four records and more, so that the quotient is at most a quarter of a word
  have quarter : inode.toNat / geometry.inodesPerBlock ≤ inode.toNat / 4 :=
    Nat.div_le_div_left geometry.four_le_inodesPerBlock (by decide)
  obtain ⟨sum, isSum, equal⟩ := @Word.add?_of_lt layout.firstInodeBlock
    (inode / layout.inodesPerBlock) (by rw [first, quotient]; omega)
  unfold Layout.inodeBlock Geometry.inodeBlock
  rw [isSum, Option.map_some, equal, first, quotient]

theorem dataBlock_eq {bit : UInt64} (inside : bit.toNat < geometry.blocks) :
    (layout.dataBlock bit).map UInt64.toNat = some (geometry.blockOfBit bit.toNat) := by
  have total := Superblock.sizes_lt geometry
  have sum := geometry.totalBlocks_eq
  have start : layout.dataStart.toNat = geometry.dataStart := exact.dataStart
  obtain ⟨block, isBlock, equal⟩ := @Word.add?_of_lt layout.dataStart bit (by rw [start]; omega)
  unfold Layout.dataBlock Geometry.blockOfBit
  rw [isBlock, Option.map_some, equal, start]

theorem bitOf_eq (block : UInt64) :
    (layout.bitOf block).map UInt64.toNat = geometry.bitOfBlock? block.toNat := by
  have start : layout.dataStart.toNat = geometry.dataStart := exact.dataStart
  have outside : (block < layout.dataStart ∨ layout.totalBlocks ≤ block) ↔
      ¬ geometry.IsData block.toNat := by
    rw [UInt64.lt_iff_toNat_lt, UInt64.le_iff_toNat_le, start, exact.total_eq, Geometry.IsData]
    omega
  unfold Layout.bitOf
  by_cases isData : geometry.IsData block.toNat
  · have before : layout.dataStart ≤ block := by
      rw [UInt64.le_iff_toNat_le, start]
      exact isData.1
    rw [if_neg (mt outside.mp (not_not.mpr isData)), Geometry.bitOfBlock?_of_isData isData,
      Option.map_some, UInt64.toNat_sub_of_le _ _ before, start]
  · rw [if_pos (outside.mpr isData), Geometry.bitOfBlock?_of_not_isData isData]
    rfl

theorem addresses : layout.Addresses geometry where
  totalBlocks := exact.total_eq
  imageLength := exact.imageLength_eq
  blockOffset := exact.blockOffset_eq
  inodeOffset := exact.inodeOffset_eq
  inodeBlock := exact.inodeBlock_eq
  dataBlock _ := exact.dataBlock_eq
  bitOf := exact.bitOf_eq

end Exact

end Layout

end ImageFs
