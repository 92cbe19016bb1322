import ImageFs.Proofs.Turnover
import ImageFs.Proofs.Words

/-!
The tiles of an image: the superblock, the bytes of the bitmap, the records of the inodes, the payloads
and the links of the data blocks. Main statement: for all sizes that are accepted the image has room for
every tile, two tiles share no byte, bits and data blocks name each other, and the block named for an
inode holds its record.
-/

namespace ImageFs

/-- What the program addresses in an image. -/
inductive Tile where
  | superblock
  | bitmapByte (index : Nat)
  | record (inode : Nat)
  | payload (block : Nat)
  | link (block : Nat)
deriving DecidableEq

namespace Tile

variable (geometry : Geometry)

def Valid : Tile → Prop
  | superblock => True
  | bitmapByte index => index < geometry.bitmapBlocks * geometry.blockSize
  | record inode => inode < geometry.inodeCount
  | payload block | link block => geometry.IsData block

def first : Tile → Nat
  | superblock => 0
  | bitmapByte index => geometry.bitmapOffset + index
  | record inode => geometry.firstInodeBlock * geometry.blockSize + inode * recordLength
  | payload block => block * geometry.blockSize
  | link block => block * geometry.blockSize + geometry.payloadSize

def length : Tile → Nat
  | superblock => Superblock.length
  | bitmapByte _ => 1
  | record _ => recordLength
  | payload _ => geometry.payloadSize
  | link _ => linkLength

def stop (tile : Tile) : Nat :=
  tile.first geometry + tile.length geometry

/-! Zones -/

/-- The zone of a tile, in the order in which the zones lie. -/
def zone : Tile → Nat
  | superblock => 0
  | bitmapByte _ => 1
  | record _ => 2
  | payload _ | link _ => 3

theorem zone_lt (tile : Tile) : tile.zone < 4 := by
  cases tile <;> simp [zone]

/-- Where a zone starts. The zone before it stops there. -/
def border : Nat → Nat
  | 0 => 0
  | 1 => geometry.bitmapOffset
  | 2 => geometry.firstInodeBlock * geometry.blockSize
  | 3 => geometry.dataStart * geometry.blockSize
  | _ => geometry.imageLength

theorem bitmap_stop : geometry.bitmapOffset + geometry.bitmapBlocks * geometry.blockSize =
    geometry.firstInodeBlock * geometry.blockSize := by
  have start : geometry.firstInodeBlock = 1 + geometry.bitmapBlocks := rfl
  rw [start, Nat.add_mul, Nat.one_mul]
  rfl

theorem border_mono : Monotone (border geometry) := by
  apply monotone_nat_of_le_succ
  intro zone
  match zone with
  | 0 => exact Nat.zero_le _
  | 1 =>
      have stop := bitmap_stop geometry
      exact Nat.le_of_add_right_le (Nat.le_of_eq stop)
  | 2 => exact geometry.firstInode_le_dataStart
  | 3 => exact geometry.data_start_le_imageLength
  | _ + 4 => exact Nat.le_refl _

variable {geometry} {tile other : Tile}

theorem in_zone (valid : tile.Valid geometry) :
    border geometry tile.zone ≤ tile.first geometry ∧
      tile.stop geometry ≤ border geometry (tile.zone + 1) := by
  cases tile with
  | superblock =>
      have minimum := geometry.minimum
      refine ⟨Nat.le_refl _, ?_⟩
      change 0 + 80 ≤ geometry.blockSize
      omega
  | bitmapByte index =>
      have isEnd := bitmap_stop geometry
      change index < _ at valid
      refine ⟨Nat.le_add_right _ _, ?_⟩
      change geometry.bitmapOffset + index + 1 ≤ geometry.firstInodeBlock * geometry.blockSize
      omega
  | record inode =>
      have isEnd := geometry.records_end
      change inode < _ at valid
      refine ⟨Nat.le_add_right _ _, ?_⟩
      change geometry.firstInodeBlock * geometry.blockSize + inode * 256 + 256 ≤
        geometry.dataStart * geometry.blockSize
      omega
  | payload block =>
      have start := geometry.data_start_le valid
      have isEnd := geometry.data_end_le valid
      have sum := geometry.payloadSize_add
      refine ⟨start, ?_⟩
      change block * geometry.blockSize + geometry.payloadSize ≤ geometry.imageLength
      omega
  | link block =>
      have start := geometry.data_start_le valid
      have isEnd := geometry.data_end_le valid
      have sum := geometry.payloadSize_add
      refine ⟨Nat.le_trans start (Nat.le_add_right _ _), ?_⟩
      change block * geometry.blockSize + geometry.payloadSize + 8 ≤ geometry.imageLength
      omega

theorem stop_le_imageLength (valid : tile.Valid geometry) :
    tile.stop geometry ≤ geometry.imageLength := by
  apply Nat.le_trans (in_zone valid).2
  exact border_mono geometry (Nat.succ_le_of_lt tile.zone_lt)

theorem before_of_zone_lt (valid : tile.Valid geometry) (valid' : other.Valid geometry)
    (earlier : tile.zone < other.zone) : tile.stop geometry ≤ other.first geometry := by
  apply Nat.le_trans (in_zone valid).2
  exact Nat.le_trans (border_mono geometry earlier) (in_zone valid').1

/-- The tiles of a data block. -/
inductive InBlock : Nat → Tile → Prop where
  | payload (block : Nat) : InBlock block (payload block)
  | link (block : Nat) : InBlock block (link block)

theorem InBlock.range {block : Nat} (inBlock : InBlock block tile) :
    block * geometry.blockSize ≤ tile.first geometry ∧
      tile.stop geometry ≤ block * geometry.blockSize + geometry.blockSize := by
  have sum := geometry.payloadSize_add
  cases inBlock with
  | payload =>
      refine ⟨Nat.le_refl _, ?_⟩
      apply Nat.add_le_add_left
      change geometry.payloadSize ≤ _
      omega
  | link =>
      refine ⟨Nat.le_add_right _ _, ?_⟩
      change block * geometry.blockSize + geometry.payloadSize + 8 ≤ _
      omega

theorem InBlock.before {block block' : Nat} (inBlock : InBlock block tile)
    (inBlock' : InBlock block' other) (less : block < block') :
    tile.stop geometry ≤ other.first geometry := by
  apply Nat.le_trans inBlock.range.2
  exact Nat.le_trans (geometry.block_end_le less) inBlock'.range.1

theorem InBlock.apart {block block' : Nat} (inBlock : InBlock block tile)
    (inBlock' : InBlock block' other) (different : tile ≠ other) :
    tile.stop geometry ≤ other.first geometry ∨ other.stop geometry ≤ tile.first geometry := by
  rcases Nat.lt_trichotomy block block' with less | same | greater
  · exact .inl (inBlock.before inBlock' less)
  · subst same
    cases inBlock with
    | payload =>
        cases inBlock' with
        | payload => exact absurd rfl different
        | link => exact .inl (Nat.le_refl _)
    | link =>
        cases inBlock' with
        | payload => exact .inr (Nat.le_refl _)
        | link => exact absurd rfl different
  · exact .inr (inBlock'.before inBlock greater)

theorem apart_of_zone_eq (same : tile.zone = other.zone) (different : tile ≠ other) :
    tile.stop geometry ≤ other.first geometry ∨ other.stop geometry ≤ tile.first geometry := by
  cases tile with
  | superblock =>
      cases other with
      | superblock => exact absurd rfl different
      | _ => cases same
  | bitmapByte index =>
      cases other with
      | bitmapByte index' =>
          have : index ≠ index' := fun equal => different (by rw [equal])
          simp only [stop, first, length]
          omega
      | _ => cases same
  | record inode =>
      cases other with
      | record inode' =>
          have : inode ≠ inode' := fun equal => different (by rw [equal])
          simp only [stop, first, length, recordLength]
          omega
      | _ => cases same
  | payload block =>
      cases other with
      | payload block' => exact (InBlock.payload block).apart (.payload block') different
      | link block' => exact (InBlock.payload block).apart (.link block') different
      | _ => cases same
  | link block =>
      cases other with
      | payload block' => exact (InBlock.link block).apart (.payload block') different
      | link block' => exact (InBlock.link block).apart (.link block') different
      | _ => cases same

theorem apart (valid : tile.Valid geometry) (valid' : other.Valid geometry)
    (different : tile ≠ other) :
    tile.stop geometry ≤ other.first geometry ∨ other.stop geometry ≤ tile.first geometry := by
  rcases Nat.lt_trichotomy tile.zone other.zone with earlier | same | later
  · exact .inl (before_of_zone_lt valid valid' earlier)
  · exact apart_of_zone_eq same different
  · exact .inr (before_of_zone_lt valid' valid later)

end Tile

namespace Geometry

variable (geometry : Geometry)

/-- The image has room for the bits of all data blocks and for an inode for each of them. -/
structure HasRoom : Prop where
  bits : geometry.blocks ≤ geometry.bitmapBlocks * geometry.blockSize * 8
  records : geometry.inodeTableBlocks * geometry.blockSize = geometry.inodeCount * recordLength
  inodes : max 4 geometry.blocks ≤ geometry.inodeCount

theorem hasRoom : geometry.HasRoom where
  bits := by
    have minimum := geometry.minimum
    rw [Nat.mul_assoc]
    exact le_ceilDiv_mul (by omega) geometry.blocks
  records := geometry.inodeCount_mul.symm
  inodes := by
    have perBlock := geometry.four_le_inodesPerBlock
    have enough := le_ceilDiv_mul (show 0 < geometry.inodesPerBlock by omega) geometry.blocks
    exact Nat.max_le.mpr ⟨geometry.four_le_inodeCount, enough⟩

/-- The tiles lie in the image and apart from each other, and they start where the addresses say. -/
structure Tiled : Prop where
  inside : ∀ tile : Tile, tile.Valid geometry → tile.stop geometry ≤ geometry.imageLength
  apart : ∀ tile other : Tile, tile.Valid geometry → other.Valid geometry → tile ≠ other →
    tile.stop geometry ≤ other.first geometry ∨ other.stop geometry ≤ tile.first geometry
  record : ∀ inode, geometry.inodeOffset? inode =
    if inode < geometry.inodeCount then some (Tile.first geometry (.record inode)) else none
  payload : ∀ block, geometry.IsData block →
    geometry.blockOffset? block = some (Tile.first geometry (.payload block))
  link : ∀ volume : Volume, volume.geometry = geometry → ∀ block, geometry.IsData block →
    volume.linkOffset block = .ok (Tile.first geometry (.link block))

theorem tiled : geometry.Tiled where
  inside _ := Tile.stop_le_imageLength
  apart _ _ := Tile.apart
  record _ := rfl
  payload _ isData := if_pos isData.2
  link volume same block isData := by
    subst same
    exact volume.linkOffset_of_isData isData

/-- The bits of the bitmap and the data blocks name each other. -/
structure BitsNameBlocks : Prop where
  isData : ∀ bit, bit < geometry.blocks → geometry.IsData (geometry.blockOfBit bit)
  bitOf : ∀ bit, bit < geometry.blocks → geometry.bitOfBlock? (geometry.blockOfBit bit) = some bit
  blockOf : ∀ block bit, geometry.bitOfBlock? block = some bit →
    bit < geometry.blocks ∧ geometry.blockOfBit bit = block
  isSome : ∀ block, (geometry.bitOfBlock? block).isSome ↔ geometry.IsData block

theorem bitsNameBlocks : geometry.BitsNameBlocks where
  isData _ := geometry.isData_blockOfBit
  bitOf bit inside := by
    rw [bitOfBlock?_of_isData (geometry.isData_blockOfBit inside), blockOfBit,
      Nat.add_sub_cancel_left]
  blockOf block bit named := by
    by_cases isData : geometry.IsData block
    · rw [bitOfBlock?_of_isData isData] at named
      obtain rfl : block - geometry.dataStart = bit := Option.some.inj named
      exact ⟨geometry.bit_lt_of_isData isData, geometry.blockOfBit_sub isData⟩
    · rw [bitOfBlock?_of_not_isData isData] at named
      cases named
  isSome block := by
    by_cases isData : geometry.IsData block
    · simp [bitOfBlock?_of_isData isData, isData]
    · simp [bitOfBlock?_of_not_isData isData, isData]

/-- The block named for an inode holds its record. -/
def BlocksHoldRecords : Prop :=
  ∀ inode, inode < geometry.inodeCount →
    geometry.inodeBlock inode * geometry.blockSize ≤ Tile.first geometry (.record inode) ∧
      Tile.stop geometry (.record inode) ≤
        geometry.inodeBlock inode * geometry.blockSize + geometry.blockSize

theorem blocksHoldRecords : geometry.BlocksHoldRecords := by
  intro inode inside
  have perBlock := geometry.inodesPerBlock_mul
  have some := geometry.four_le_inodesPerBlock
  have division := Nat.div_add_mod inode geometry.inodesPerBlock
  have remainder := Nat.mod_lt inode (show 0 < geometry.inodesPerBlock by omega)
  have behind : inode / geometry.inodesPerBlock * geometry.blockSize =
      geometry.inodesPerBlock * (inode / geometry.inodesPerBlock) * 256 := by
    rw [← perBlock, ← Nat.mul_assoc, Nat.mul_comm geometry.inodesPerBlock]
  unfold inodeBlock Tile.stop
  simp only [Nat.add_mul, behind, Tile.first, Tile.length, recordLength]
  omega

/-! All sizes -/

/-- The length in bytes of an image of the given sizes: one block for the superblock, those of the bitmap
and of the inode table, and the data blocks. -/
def lengthOf (blockSize blocks : Nat) : Nat :=
  (1 + ceilDiv blocks (blockSize * 8) + ceilDiv blocks (blockSize / 256) + blocks) * blockSize

theorem sizes_exact (blockSize : UInt32) (blocks : UInt64) :
    ((∃ geometry, ofSizes blockSize blocks = .ok geometry) ↔
      1024 ≤ blockSize.toNat ∧ blockSize.toNat % 256 = 0 ∧ 0 < blocks.toNat ∧
        lengthOf blockSize.toNat blocks.toNat < 2 ^ 64) ∧
    (∀ error, ofSizes blockSize blocks = .error error →
      Layout.compute blockSize blocks = some (.error error)) ∧
    ∀ geometry, ofSizes blockSize blocks = .ok geometry →
      (∃ layout, Layout.compute blockSize blocks = some (.ok layout) ∧
        layout.Exact blockSize.toNat blocks.toNat ∧ layout.Addresses geometry) ∧
      geometry.blockSize = blockSize.toNat ∧ geometry.blocks = blocks.toNat ∧
      geometry.imageLength = lengthOf blockSize.toNat blocks.toNat ∧
      geometry.HasRoom ∧ geometry.Tiled ∧ geometry.BitsNameBlocks ∧ geometry.BlocksHoldRecords := by
  obtain ⟨refused, accepted⟩ := Layout.compute_exact blockSize blocks
  refine ⟨ofSizes_ok_iff blockSize blocks, refused, fun geometry isGeometry => ?_⟩
  obtain ⟨layout, computed, exact⟩ := accepted geometry isGeometry
  have judged := ofSizes_judged blockSize blocks
  rw [isGeometry] at judged
  cases judged with
  | accepted _ isSize isCount =>
      refine ⟨⟨layout, computed, ?_, exact.addresses⟩, isSize, isCount, ?_, geometry.hasRoom,
        geometry.tiled, geometry.bitsNameBlocks, geometry.blocksHoldRecords⟩
      · rw [← isSize, ← isCount]
        exact exact
      · rw [← isSize, ← isCount]
        rfl

/-- Blocks of five records each. -/
def uneven : Geometry where
  blockSize := 1280
  blocks := 10
  minimum_le := by decide
  even := by decide
  blockSize_lt := by decide
  blocks_pos := by decide
  addressable := by decide

theorem sizes_exact_uneven :
    (∃ geometry, ofSizes 1280 10 = .ok geometry) ∧
    (∃ layout, Layout.compute 1280 10 = some (.ok layout) ∧ layout.imageLength.toNat = 14 * 1280) ∧
    uneven.BlocksHoldRecords ∧ uneven.inodeBlock 9 = 3 ∧
    ¬ ∃ geometry, ofSizes 1100 8 = .ok geometry := by
  obtain ⟨accepted, -, exact⟩ := sizes_exact 1280 10
  obtain ⟨⟨layout, computed, -, addresses⟩, -, -, length, -, -, -, holds⟩ := exact uneven rfl
  refine ⟨accepted.mpr (by decide), ⟨layout, computed, ?_⟩, holds, by decide, ?_⟩
  · rw [addresses.imageLength, length]
    decide
  · rw [(sizes_exact 1100 8).1]
    decide

end Geometry

end ImageFs
