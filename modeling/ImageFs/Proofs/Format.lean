import ImageFs.Proofs.Header
import ImageFs.Proofs.Slots

/-!
A new image. Main statement: laying the metadata down on a file of zeros makes a disk that stands for
the tree with an empty root.
-/

namespace ImageFs

open Function (update)

/-! A superblock on a file of zeros -/

def Geometry.firstCount (geometry : Geometry) : Counter → Nat
  | .freeBlocks => geometry.blocks - 1
  | .nextFreeBlock => if 1 < geometry.blocks then 1 else 0
  | .nextFreeInode => InodeNumber.firstFree

/-- A disk of zeros with a fresh superblock. -/
def Disk.blank (geometry : Geometry) : Disk where
  counter := geometry.firstCount
  bitmap := .zeros geometry.bitmapLength
  record inode := if inode < geometry.inodeCount then .zeros recordLength else []
  payload block := if geometry.IsData block then .zeros geometry.payloadSize else []
  link _ := 0
  rest := Disk.fixed geometry

section Blank

variable {geometry : Geometry} {size : Nat}

theorem Content.byte_fresh (position : Nat) :
    ((Content.empty.resize size).write 0 (Superblock.fresh geometry).encode).byte position =
      ((Superblock.fresh geometry).encode[position]?).getD 0 := by
  rw [Content.byte_write, if_pos (Nat.zero_le _), Nat.sub_zero, Content.byte_resize,
    Content.byte_of_le (Nat.zero_le _), ite_self]

theorem Content.read_fresh {offset : Nat} (behind : Superblock.length ≤ offset) (count : Nat) :
    ((Content.empty.resize size).write 0 (Superblock.fresh geometry).encode).read offset count =
      .zeros count := by
  apply List.ext_getElem?
  intro index
  rw [Content.getElem?_read, Bytes.getElem?_zeros, Content.byte_fresh, List.getElem?_eq_none]
  · rfl
  · rw [Superblock.length_encode]
    omega

theorem Bytes.toNat_zeros (count : Nat) : Bytes.toNat (.zeros count) = 0 := by
  induction count with
  | zero => rfl
  | succ count induction =>
      change (0 : UInt8).toNat + 256 * Bytes.toNat (.zeros count) = 0
      rw [induction]
      rfl

theorem Content.counter_fresh (which : Counter) :
    (((Content.empty.resize size).write 0 (Superblock.fresh geometry).encode).area geometry
      (.counter which)).toNat = geometry.firstCount which := by
  have total := Superblock.sizes_lt geometry
  have sum := geometry.totalBlocks_eq
  have table := geometry.four_le_inodeCount
  obtain ⟨word, isField, isCount⟩ : ∃ word : UInt64,
      (which.offset, .ofUInt64 word) ∈ (Superblock.fresh geometry).fields ∧
      word.toNat = geometry.firstCount which := by
    cases which with
    | freeBlocks =>
        refine ⟨(Superblock.fresh geometry).freeBlocks, by
          simp [Superblock.fields, Counter.offset], ?_⟩
        exact UInt64.toNat_ofNat_of_lt' (show geometry.blocks - 1 < Limit.word64 by omega)
    | nextFreeBlock =>
        refine ⟨(Superblock.fresh geometry).nextFreeBlock, by
          simp [Superblock.fields, Counter.offset], ?_⟩
        rw [Superblock.fresh, Geometry.firstCount]
        dsimp only
        split <;> rfl
    | nextFreeInode =>
        refine ⟨(Superblock.fresh geometry).nextFreeInode, by
          simp [Superblock.fields, Counter.offset], ?_⟩
        rw [Superblock.fresh]
        dsimp only
        rw [if_pos (by omega)]
        rfl
  have slice := Superblock.slice_encode isField
  have isLength := (Superblock.fresh geometry).length_encode
  have inside : which.offset + 8 ≤ Superblock.length := by cases which <;> decide
  rw [Bytes.length_ofUInt64, Field.slice_of_le (by omega)
    (Nat.lt_of_le_of_lt inside (by decide))] at slice
  have read : ((Content.empty.resize size).write 0 (Superblock.fresh geometry).encode).read
      which.offset 8 = .ofUInt64 word := by
    rw [← Except.ok.inj slice]
    apply List.ext_getElem?
    intro index
    rw [Content.getElem?_read, Content.byte_fresh, List.getElem?_take, List.getElem?_drop]
    split
    · next within =>
      rw [List.getElem?_eq_getElem (by omega)]
      rfl
    · rfl
  rw [← isCount]
  change Bytes.toNat (Content.read _ which.offset 8) = _
  rw [read, Bytes.ofUInt64]
  exact Bytes.toNat_ofNat_of_lt word.toNat_lt

theorem Disk.of_fresh :
    Disk.of geometry ((Content.empty.resize size).write 0 (Superblock.fresh geometry).encode) =
      Disk.blank geometry := by
  have minimum := geometry.minimum
  have isLength : Superblock.length = 80 := rfl
  have start : geometry.bitmapOffset = geometry.blockSize := rfl
  have bitmapEnd := geometry.bitmap_le
  have recordsStart := geometry.firstInode_le_dataStart
  apply Disk.ext
  · funext which
    exact Content.counter_fresh which
  · exact Content.read_fresh (by simp only [Area.first]; omega) _
  · funext inode
    simp only [Disk.of, Disk.blank]
    split
    · exact Content.read_fresh (by simp only [Area.first]; omega) _
    · rfl
  · funext block
    simp only [Disk.of, Disk.blank]
    split
    · next isData =>
      have dataStart := geometry.data_start_le isData
      have reserved := Area.reserved_le geometry block
      have sum := geometry.payloadSize_add
      rw [Content.area, Content.read_fresh (by simp only [Area.first]; omega), Bytes.zeros_append,
        Area.length]
      congr 1
      omega
    · rfl
  · funext block
    simp only [Disk.of, Disk.blank]
    split
    · next isData =>
      have dataStart := geometry.data_start_le isData
      rw [Content.area, Content.read_fresh (by simp only [Area.first]; omega), Bytes.toNat_zeros]
    · rfl
  · funext position
    simp only [Disk.of, Disk.blank, Disk.fixed, Content.byte_fresh]

end Blank

/-! The first tree -/

def Tree.fresh : Tree := fun node =>
  if node = InodeNumber.root then { name := "/", generation := 0, body := .directory [] }
  else if node = InodeNumber.anchor then .anchor
  else .vacant 0

/-- The chains of a new image: the anchor has its block. -/
def Geometry.firstChain (geometry : Geometry) (node : Nat) : List Nat :=
  if node = InodeNumber.anchor then [geometry.anchorBlock] else []

def Disk.fresh (geometry : Geometry) : Disk :=
  { Disk.blank geometry with
    bitmap := (Bytes.zeros geometry.bitmapLength).overlay 0 [1]
    record := update (update (Disk.blank geometry).record InodeNumber.root Volume.rootInode.record)
      InodeNumber.anchor (Volume.anchorInode geometry).record }

namespace Tree

theorem children_fresh (node : Nat) : (fresh node).children = [] := by
  rw [fresh]
  split
  · rfl
  · split <;> rfl

theorem generation_fresh (node : Nat) : (fresh node).generation = 0 := by
  unfold fresh
  split
  · rfl
  · split <;> rfl

theorem fresh_of_firstFree_le {node : Nat} (free : InodeNumber.firstFree ≤ node) :
    fresh node = .vacant 0 := by
  have first : InodeNumber.firstFree = 2 := rfl
  rw [fresh, if_neg (by simp only [InodeNumber.root]; omega),
    if_neg (by simp only [InodeNumber.anchor]; omega)]

theorem nameFits_fresh (node : Nat) : NameFits (fresh node).name := by
  rw [fresh]
  split
  · exact ⟨by decide, by decide⟩
  · split
    · exact ⟨by decide, by decide⟩
    · exact ⟨by decide, by decide⟩

theorem wellFormed_fresh {slots : Nat} (table : InodeNumber.firstFree ≤ slots) :
    fresh.WellFormed slots where
  rootName := rfl
  rootBody := ⟨[], rfl⟩
  anchor := rfl
  vacant node vacant := by
    have notRoot : node ≠ InodeNumber.root := by
      rintro rfl
      exact vacant (by simp [fresh, Node.IsLive])
    have notAnchor : node ≠ InodeNumber.anchor := by
      rintro rfl
      exact vacant (by simp [fresh, Node.IsLive, Node.anchor, InodeNumber.anchor, InodeNumber.root])
    rw [fresh, if_neg notRoot, if_neg notAnchor]
    rfl
  beyond node behind := fresh_of_firstFree_le (Nat.le_trans table behind)
  fits := nameFits_fresh
  child node child member := by
    rw [children_fresh] at member
    cases member
  distinct node := by
    rw [children_fresh]
    exact List.nodup_nil
  parent first second child member := by
    rw [children_fresh] at member
    cases member
  linked node free live := by
    rw [fresh_of_firstFree_le free] at live
    exact absurd rfl live
  depth := ⟨fun _ => 0, fun node child member => by
    rw [children_fresh] at member
    cases member⟩

end Tree

variable {geometry : Geometry}

theorem Bitmap.get_first (length bit : Nat) (some : 0 < length) :
    Bitmap.get ((Bytes.zeros length).overlay 0 [1]) bit = decide (bit = 0) := by
  cases length with
  | zero => omega
  | succ length =>
      have bytes : (Bytes.zeros (length + 1)).overlay 0 [1] = 1 :: Bytes.zeros length := by
        simp [Bytes.overlay, Bytes.zeros, List.replicate_succ]
      rw [bytes]
      by_cases low : bit < 8
      · rw [Bitmap.get_cons_of_lt _ _ low]
        have bits : ∀ bit < 8, byteBit 1 bit = decide (bit = 0) := by decide
        exact bits bit low
      · obtain ⟨more, rfl⟩ := Nat.exists_eq_add_of_le (Nat.not_lt.mp low)
        rw [Bitmap.get_cons_add, Bitmap.get, Bytes.getElem?_zeros]
        split
        · next byte isByte =>
          split at isByte
          · cases isByte
            simp [Bitmap.byteBit]
          · cases isByte
        · simp

theorem Bitmap.clearCount_first {length count : Nat} (some : 0 < count) (some' : 0 < length) :
    Bitmap.clearCount ((Bytes.zeros length).overlay 0 [1]) count = count - 1 := by
  rw [Bitmap.clearCount]
  obtain ⟨more, rfl⟩ := Nat.exists_eq_add_of_le' some
  rw [List.range_succ_eq_map, List.countP_cons_of_neg (by simp [Bitmap.get_first _ _ some']),
    List.countP_map, List.countP_eq_length.mpr]
  · simp
  · intro bit _
    simp [Bitmap.get_first _ _ some']

theorem Ledger.fresh (geometry : Geometry) :
    Ledger geometry (Disk.fresh geometry) geometry.firstChain := by
  have positive := geometry.blocks_pos
  have bitmapLength : 0 < geometry.bitmapLength := ceilDiv_pos (by decide) positive
  have onlyAnchor {inode block : Nat} (member : block ∈ geometry.firstChain inode) :
      inode = InodeNumber.anchor ∧ block = geometry.anchorBlock := by
    rw [Geometry.firstChain] at member
    split at member
    · next isAnchor => exact ⟨isAnchor, List.mem_singleton.mp member⟩
    · cases member
  have anchored : geometry.firstChain InodeNumber.anchor = [geometry.anchorBlock] := if_pos rfl
  refine ⟨?_, ?_, ?_, ?_, ?_, ?_, anchored, ?_, ?_, ?_⟩
  · change ((Bytes.zeros geometry.bitmapLength).overlay 0 [1]).length = _
    rw [Bytes.length_overlay (by rw [Bytes.length_zeros]; exact bitmapLength), Bytes.length_zeros]
  · intro block isData
    change (if geometry.IsData block then Bytes.zeros geometry.payloadSize else []).length = _
    rw [if_pos isData, Bytes.length_zeros]
  · intro inode block member
    rw [(onlyAnchor member).2]
    exact geometry.isData_anchorBlock
  · intro inode
    rw [Geometry.firstChain]
    split
    · exact List.nodup_singleton _
    · exact List.nodup_nil
  · intro first second different block member member'
    exact different ((onlyAnchor member).1.trans (onlyAnchor member').1.symm)
  · intro inode
    rw [Geometry.firstChain]
    split
    · exact ⟨rfl, trivial⟩
    · trivial
  · intro bit inside
    change Bitmap.get ((Bytes.zeros geometry.bitmapLength).overlay 0 [1]) bit = true ↔ _
    rw [Bitmap.get_first _ _ bitmapLength, decide_eq_true_eq]
    constructor
    · rintro rfl
      exact ⟨InodeNumber.anchor, by rw [anchored]; exact List.mem_singleton_self _⟩
    · rintro ⟨inode, member⟩
      have same := (onlyAnchor member).2
      rw [Geometry.blockOfBit, Geometry.anchorBlock] at same
      omega
  · exact (Bitmap.clearCount_first positive bitmapLength).symm
  · change (geometry.blocks = 1 ∧ (if 1 < geometry.blocks then 1 else 0) = 0) ∨
      (1 ≤ (if 1 < geometry.blocks then 1 else 0) ∧
        (if 1 < geometry.blocks then 1 else 0) < geometry.blocks)
    split
    · next two => exact .inr ⟨Nat.le_refl 1, two⟩
    · next one => exact .inl ⟨by omega, rfl⟩

theorem Tree.stored_fresh (node : Nat) :
    (Tree.fresh node).stored = if node = InodeNumber.anchor then Bytes.zeros linkLength else [] := by
  rw [fresh]
  split
  · next isRoot =>
    subst isRoot
    rfl
  · split <;> rfl

theorem Geometry.blocksFor_link (geometry : Geometry) : geometry.blocksFor linkLength = 1 := by
  have minimum := geometry.minimum
  have sum := geometry.payloadSize_add
  refine Nat.le_antisymm ?_ (ceilDiv_pos geometry.payloadSize_pos (by decide))
  exact ceilDiv_le_of_le_mul geometry.payloadSize_pos (by simp only [linkLength]; omega)

/-- An empty slot that was never used is a record of zeros. -/
theorem Node.record_vacant : ((vacant 0).inode []).record = .zeros recordLength := by
  have name : Field.padded Inode.nameWidth (Text.bytesOf "") = Bytes.zeros Inode.nameWidth :=
    List.nil_append _
  have pieces : ((vacant 0).inode []).record =
      Field.padded Inode.nameWidth (Text.bytesOf "") ++ Bytes.zeros 2 ++ Bytes.zeros 8 ++
        Bytes.zeros 8 := rfl
  rw [pieces, name, Bytes.zeros_append, Bytes.zeros_append, Bytes.zeros_append]

theorem Disk.record_fresh {node : Nat} (inside : node < geometry.inodeCount) :
    (Disk.fresh geometry).record node =
      ((Tree.fresh node).inode (geometry.firstChain node)).record := by
  change update (update (Disk.blank geometry).record InodeNumber.root Volume.rootInode.record)
    InodeNumber.anchor (Volume.anchorInode geometry).record node = _
  by_cases isAnchor : node = InodeNumber.anchor
  · subst isAnchor
    rw [Function.update_self]
    rfl
  · rw [Function.update_of_ne isAnchor, Geometry.firstChain, if_neg isAnchor]
    by_cases isRoot : node = InodeNumber.root
    · subst isRoot
      rw [Function.update_self]
      rfl
    · rw [Function.update_of_ne isRoot, Tree.fresh, if_neg isRoot, if_neg isAnchor]
      change (if node < geometry.inodeCount then Bytes.zeros recordLength else []) = _
      rw [if_pos inside, Node.record_vacant]

/-- The disk of a new image stands for the tree with an empty root. -/
theorem Represents.fresh (lockable : geometry.imageLength ≤ Limit.hostOffset) :
    Represents geometry (Disk.fresh geometry) Tree.fresh geometry.firstChain where
  stored := {
    lockable
    ledger := .fresh geometry
    fits := Tree.nameFits_fresh
    child := fun node child member => by
      rw [Tree.children_fresh] at member
      cases member
    anchor := rfl
    record := fun node inside => Disk.record_fresh inside
    length := fun node => by
      rw [Tree.stored_fresh, Geometry.firstChain]
      split
      · exact geometry.blocksFor_link.symm
      · exact geometry.blocksFor_zero.symm
    stream := fun node => by
      rw [Tree.stored_fresh, Geometry.firstChain]
      split
      · have sum := geometry.payloadSize_add
        have minimum := geometry.minimum
        have payload : (Disk.fresh geometry).payload geometry.anchorBlock =
            .zeros geometry.payloadSize := if_pos geometry.isData_anchorBlock
        rw [Disk.stream, List.flatMap_singleton, payload, List.length_singleton, Nat.one_mul,
          Bytes.length_zeros, Bytes.zeros_append]
        congr 1
        simp only [linkLength]
        omega
      · rw [List.length_nil, Nat.zero_mul]
        rfl
    fixed := rfl }
  wellFormed :=
    Tree.wellFormed_fresh (Nat.le_trans (by decide) geometry.four_le_inodeCount)
  slotCursor := by
    have table := geometry.four_le_inodeCount
    have vacancy : Tree.fresh.vacancy geometry.inodeCount = some InodeNumber.firstFree := by
      refine Tree.vacancy_eq_some.mpr ⟨Nat.le_refl _, ?_, ?_, ?_⟩
      · exact Nat.lt_of_lt_of_le (by decide) table
      · rw [Tree.fresh_of_firstFree_le (Nat.le_refl _)]
        exact fun live => live rfl
      · intro other free before
        omega
    rw [vacancy]
    rfl

/-! Laying the metadata down -/

variable {volume : Volume}

theorem Bytes.eq_zeros_of_toNat {bytes : Bytes} (none : bytes.toNat = 0) :
    bytes = .zeros bytes.length := by
  have same := Bytes.ofNat_toNat bytes
  rw [none] at same
  rw [← same, Bytes.length_ofNat]
  generalize bytes.length = width
  induction width with
  | zero => rfl
  | succ width induction =>
      rw [Bytes.ofNat, Nat.zero_div, induction]
      rfl

/-- The anchor block of a file at rest whose payload and link are zeros. -/
theorem Content.read_anchor {content : Content} (holders : content.holders geometry = 0)
    (payload : (Disk.of geometry content).payload geometry.anchorBlock =
      .zeros geometry.payloadSize)
    (link : (Disk.of geometry content).link geometry.anchorBlock = 0) :
    content.read (geometry.anchorBlock * geometry.blockSize) geometry.blockSize =
      .zeros geometry.blockSize := by
  have minimum := geometry.minimum
  have sum := geometry.payloadSize_add
  have isData := geometry.isData_anchorBlock
  have isLinkLength : linkLength = 8 := rfl
  have reserved : Area.reserved geometry geometry.anchorBlock = linkLength := if_pos rfl
  simp only [Disk.of, if_pos isData, reserved] at payload link
  have first := Bytes.eq_zeros_of_toNat holders
  have last := Bytes.eq_zeros_of_toNat link
  have second : content.area geometry (.payload geometry.anchorBlock) =
      .zeros (geometry.payloadSize - linkLength) := by
    rw [show geometry.payloadSize = linkLength + (geometry.payloadSize - linkLength) by omega,
      ← Bytes.zeros_append, List.append_cancel_left_eq] at payload
    exact payload
  rw [Disk.length_area] at first last
  simp only [Content.area, Area.first, Area.length, reserved] at first second last
  have front : linkLength + (geometry.payloadSize - linkLength) = geometry.payloadSize := by omega
  have begins : content.read (geometry.anchorBlock * geometry.blockSize) geometry.payloadSize =
      .zeros geometry.payloadSize := by
    rw [← front, Content.read_append, second, isLinkLength, first, ← isLinkLength,
      Bytes.zeros_append]
  have whole := content.read_append (geometry.anchorBlock * geometry.blockSize) geometry.payloadSize 8
  rwa [begins, last, Bytes.zeros_append, sum] at whole

theorem Superblock.length_le_dataStart (geometry : Geometry) :
    length ≤ geometry.dataStart * geometry.blockSize := by
  have minimum := geometry.minimum
  have front := geometry.two_le_dataStart
  have isLength : length = 80 := rfl
  have blocks := Nat.mul_le_mul front minimum
  omega

/-- A file of the given length that shows the disk, with no holders counted. -/
structure Content.Presents (geometry : Geometry) (size : Nat) (content : Content) (disk : Disk) :
    Prop where
  size : content.size = size
  holders : content.holders geometry = 0
  disk : Disk.of geometry content = disk

namespace Content.Presents

variable {content : Content} {size : Nat} {disk : Disk} (presents : Presents geometry size content disk)
  (long : geometry.imageLength ≤ size)

theorem fresh (long : geometry.imageLength ≤ size) : Presents geometry size
    ((Content.empty.resize size).write 0 (Superblock.fresh geometry).encode)
    (Disk.blank geometry) := by
  have front := Superblock.length_le_dataStart geometry
  constructor
  · apply Content.size_write_of_fits
    rw [Superblock.length_encode, Nat.zero_add]
    exact Nat.le_trans front (Nat.le_trans geometry.data_start_le_imageLength long)
  · have behind : Superblock.length ≤ Area.first geometry .holders := front
    rw [Content.holders, Content.area, Content.read_fresh behind, Bytes.toNat_zeros]
  · exact Disk.of_fresh

include presents long

theorem write (area : Area) (valid : area.Valid geometry) (different : area ≠ .holders)
    {offset : Nat} {bytes : Bytes} (behind : area.first geometry ≤ offset)
    (within : offset + bytes.length ≤ area.first geometry + area.length geometry) :
    Presents geometry size (content.write offset bytes) (Disk.of geometry (content.write offset bytes)) := by
  have stop := area.stop_le_imageLength valid
  constructor
  · rw [Content.size_write_of_fits, presents.size]
    rw [presents.size]
    omega
  · rw [← presents.holders]
    exact (Disk.agreeBut_write area valid content behind within).holders different
  · rfl

theorem write_record {number : Nat} {record : Bytes} (inside : number < geometry.inodeCount)
    (length : record.length = recordLength) :
    Presents geometry size (content.write (Area.first geometry (.record number)) record)
      { disk with record := update disk.record number record } := by
  have written := presents.write long (.record number) inside (by simp) (Nat.le_refl _)
    (Nat.add_le_add_left (Nat.le_of_eq length) _)
  rwa [Disk.of_write_record _ inside length, presents.disk] at written

theorem write_bitmap {start : Nat} {bytes : Bytes}
    (fits : start + bytes.length ≤ geometry.bitmapLength) :
    Presents geometry size (content.write (geometry.bitmapOffset + start) bytes)
      { disk with bitmap := disk.bitmap.overlay start bytes } := by
  have written := @write _ _ _ _ presents long .bitmap trivial (by simp)
    (geometry.bitmapOffset + start) bytes (Nat.le_add_right _ _)
    (by simp only [Area.first, Area.length]; omega)
  rwa [Disk.of_write_bitmap _ fits, presents.disk] at written

/-- Clearing the anchor block of a file that has zeros there changes nothing. -/
theorem clear_anchor (payload : disk.payload geometry.anchorBlock = .zeros geometry.payloadSize)
    (link : disk.link geometry.anchorBlock = 0) :
    content.write (geometry.anchorBlock * geometry.blockSize) (.zeros geometry.blockSize) =
      content := by
  have shows := presents.disk
  subst shows
  have dataEnd := geometry.data_end_le geometry.isData_anchorBlock
  rw [← Content.read_anchor presents.holders payload link]
  apply Content.write_read
  rw [presents.size]
  exact Nat.le_trans dataEnd long

end Content.Presents

namespace Volume

theorem writeInode_apply (volume : Volume) (backing : Backing) {number : Nat} {inode : Inode}
    {record : Bytes} (inside : number < volume.geometry.inodeCount)
    (encoded : inode.encode = .ok record) :
    volume.writeInode number inode backing = (.ok (), { backing with
      content := backing.content.write (Area.first volume.geometry (.record number)) record }) := by
  have within := Area.stop_le_imageLength (.record number) inside
  unfold writeInode
  rw [encoded]
  refine (Update.bind_ok rfl).trans ?_
  unfold writeInodeRecord
  rw [volume.inodeOffset_of_lt inside]
  refine (Update.bind_ok rfl).trans ?_
  apply volume.write_apply backing
  rw [Inode.length_encode encoded]
  exact within

theorem clearBlock_apply (volume : Volume) (backing : Backing) {block : Nat}
    (isData : volume.geometry.IsData block) :
    volume.clearBlock block backing = (.ok (), { backing with
      content := backing.content.write (block * volume.geometry.blockSize)
        (.zeros volume.geometry.blockSize) }) := by
  have dataEnd := volume.geometry.data_end_le isData
  have sum := volume.geometry.payloadSize_add
  have zeros : ([] : Bytes) ++ Bytes.zeros (volume.geometry.payloadSize - ([] : Bytes).length) ++
      Bytes.ofNat linkLength 0 = Bytes.zeros volume.geometry.blockSize := by
    rw [List.nil_append, List.length_nil, Nat.sub_zero, ← sum, ← Bytes.zeros_append]
    rfl
  have short : ¬ volume.geometry.payloadSize < ([] : Bytes).length := Nat.not_lt_zero _
  unfold clearBlock writeBlock
  rw [volume.checkDataBlock_of_isData isData, volume.blockOffset_of_isData isData, zeros]
  refine (Update.bind_ok rfl).trans ?_
  rw [if_neg short]
  refine (Update.bind_ok rfl).trans ?_
  apply volume.write_apply backing
  rw [Bytes.length_zeros]
  exact dataEnd

theorem writeBitmap_apply (volume : Volume) (backing : Backing) {start : Nat} {bytes : Bytes}
    (fits : start + bytes.length ≤ volume.geometry.bitmapLength) :
    volume.writeBitmap start bytes backing = (.ok (), { backing with
      content := backing.content.write (volume.geometry.bitmapOffset + start) bytes }) := by
  have within := @Area.stop_le_imageLength volume.geometry .bitmap trivial
  simp only [Area.first, Area.length] at within
  unfold writeBitmap
  rw [if_neg (Nat.not_lt.mpr fits)]
  exact volume.write_apply backing (by omega)

/-- A file of zeros that is long enough becomes a new image. -/
theorem format_apply (volume : Volume) {size : Nat} (long : volume.geometry.imageLength ≤ size)
    (locks : LockTable) :
    ∃ content, volume.format ⟨Content.empty.resize size, locks⟩ = (.ok (), ⟨content, locks⟩) ∧
      content.Presents volume.geometry size (Disk.fresh volume.geometry) := by
  have isData := volume.geometry.isData_anchorBlock
  have table := volume.geometry.four_le_inodeCount
  have isRoot : InodeNumber.root < volume.geometry.inodeCount := Nat.lt_of_lt_of_le (by decide) table
  have isAnchor : InodeNumber.anchor < volume.geometry.inodeCount :=
    Nat.lt_of_lt_of_le (by decide) table
  have rootFits : NameFits rootInode.name := Tree.nameFits_fresh InodeNumber.root
  have anchorFits : NameFits (anchorInode volume.geometry).name :=
    Tree.nameFits_fresh InodeNumber.anchor
  have someBits : 0 + ([1] : Bytes).length ≤ volume.geometry.bitmapLength :=
    ceilDiv_pos (by decide) volume.geometry.blocks_pos
  have begun := @Content.Presents.fresh volume.geometry size long
  have rooted := begun.write_record long isRoot (Inode.length_record rootFits)
  have anchored := rooted.write_record long isAnchor (Inode.length_record anchorFits)
  have marked := anchored.write_bitmap long someBits
  refine ⟨_, ?_, marked⟩
  have fits : 0 + (Superblock.fresh volume.geometry).encode.length ≤ volume.geometry.imageLength := by
    rw [Superblock.length_encode, Nat.zero_add]
    exact Nat.le_trans (Superblock.length_le_dataStart _) volume.geometry.data_start_le_imageLength
  unfold format
  refine (Update.bind_ok (volume.write_apply _ fits)).trans ?_
  refine (Update.bind_ok (volume.writeInode_apply _ isRoot (Inode.encode_of_fits rootFits))).trans ?_
  refine (Update.bind_ok (volume.writeInode_apply _ isAnchor (Inode.encode_of_fits anchorFits))).trans ?_
  refine (Update.bind_ok (volume.clearBlock_apply _ isData)).trans ?_
  dsimp only
  rw [anchored.clear_anchor long (if_pos isData) rfl]
  exact volume.writeBitmap_apply _ someBits

end Volume

/-- A file of zeros becomes a new image. -/
theorem Volume.format_answers (volume : Volume)
    (lockable : volume.geometry.imageLength ≤ Limit.hostOffset) :
    ∃ final, volume.format ⟨Content.empty.resize volume.geometry.imageLength, []⟩ = (.ok (), final) ∧
      volume.AtRest final ∧ final.content.size = volume.geometry.imageLength ∧
      Disk.of volume.geometry final.content = Disk.fresh volume.geometry := by
  obtain ⟨content, formatted, presents⟩ := volume.format_apply (Nat.le_refl _) []
  exact ⟨⟨content, []⟩, formatted, ⟨Nat.le_of_eq presents.size.symm, lockable, rfl, presents.holders⟩,
    presents.size, presents.disk⟩

end ImageFs
