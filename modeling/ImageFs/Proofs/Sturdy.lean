import ImageFs.Proofs.Endures
import ImageFs.Proofs.Ledger

/-!
The chains of blocks and the allocation on an image with arbitrary bytes. Main statements: walking,
growing and shrinking a chain endure whatever they meet, yield no more blocks than the image can
address, and leave the inode records alone.
-/

namespace ImageFs

variable {α β : Type}

/-! What depends on the inode records alone -/

def OfRecords (geometry : Geometry) (keeps : Content → Prop) : Prop :=
  ∀ content content' : Content, (∀ number, number < geometry.inodeCount →
    content'.area geometry (.record number) = content.area geometry (.record number)) →
      keeps content → keeps content'

namespace OfRecords

variable {geometry : Geometry} {keeps : Content → Prop}

/-- A write before or behind the inode table does not matter. -/
theorem write (ofRecords : OfRecords geometry keeps) {content : Content} {start : Nat}
    {bytes : Bytes}
    (apart : start + bytes.length ≤ geometry.firstInodeBlock * geometry.blockSize ∨
      geometry.dataStart * geometry.blockSize ≤ start) (known : keeps content) :
    keeps (content.write start bytes) := by
  refine ofRecords content _ (fun number valid => ?_) known
  have tableEnd := Area.record_end_le geometry valid
  refine Content.read_write_of_apart content ?_
  rcases apart with before | behind
  · exact .inr (Nat.le_trans before (Nat.le_add_right _ _))
  · exact .inl (Nat.le_trans tableEnd behind)

theorem uncounted (ofRecords : OfRecords geometry keeps) : Uncounted geometry keeps :=
  fun _ _ known => ofRecords.write (.inr (Nat.le_refl _)) known

end OfRecords

/-- Besides the data blocks there are at least two others. -/
theorem Geometry.data_length_le (geometry : Geometry) :
    geometry.blocks * geometry.blockSize + 2048 ≤ geometry.imageLength := by
  have minimum := geometry.minimum
  have front : 2 * geometry.blockSize ≤ geometry.dataStart * geometry.blockSize :=
    Nat.mul_le_mul_right _ geometry.two_le_dataStart
  have image : geometry.imageLength = geometry.dataStart * geometry.blockSize +
      geometry.blocks * geometry.blockSize := Nat.add_mul ..
  omega

namespace FirstFit

/-- What is chosen are bits that may be handed out, and not all of the bitmap. -/
theorem choose_usable {bitmap : Bytes} {bitCount cursor wanted : Nat} {choice : Choice}
    (chosen : choose bitmap bitCount cursor wanted = some choice) :
    (∀ bit ∈ choice.bits, bit < bitCount) ∧ choice.bits.length ≤ bitCount := by
  rw [choose_eq] at chosen
  split at chosen
  · cases chosen
  · cases chosen
    refine ⟨fun bit member => (mem_offers.mp (List.mem_of_mem_take member)).1.2, ?_⟩
    have bound := clearUsable_le bitmap bitCount
    rw [List.length_take, length_offers]
    omega

end FirstFit

namespace Volume

variable {volume : Volume} {excused : Crash → Prop} {keeps : Content → Prop}

/-! Chains -/

/-- Blocks that a chain of the image may have, and how many of them. -/
structure Chained (geometry : Geometry) (blocks : List Nat) (count : Nat) : Prop where
  isData : ∀ block ∈ blocks, geometry.IsData block
  short : blocks.length ≤ count

theorem nextBlock_bears (block : Nat) :
    Bears volume excused keeps (volume.nextBlock block) fun _ _ => True := by
  refine (Bears.except fun _ _ _ _ => trivial).andThen fun offset => ?_
  exact (Device.readWord_bears keeps offset).plain

theorem walkChain_bears (first budget current : Nat) :
    Bears volume excused keeps (volume.walkChain first budget current) fun _ _ => True := by
  induction budget generalizing current with
  | zero =>
      rw [walkChain.eq_def]
      refine .ite (fun _ => .pure fun _ _ => trivial) fun _ => ?_
      exact (Bears.except fun _ _ _ _ => trivial).andThen fun _ => .throw _ _
  | succ budget induction =>
      rw [walkChain.eq_def]
      refine .ite (fun _ => .pure fun _ _ => trivial) fun _ => ?_
      refine (Bears.except fun _ _ _ _ => trivial).andThen fun _ => ?_
      refine (nextBlock_bears current).andThen fun next => ?_
      exact (induction next).andThen fun rest => .pure fun _ _ => trivial

theorem chain_bears (first : Nat) :
    Bears volume excused keeps (volume.chain first)
      fun blocks content => content.chain? volume.geometry first = some blocks :=
  (walkChain_bears first _ first).of_judges fun backing => volume.chain_judges backing first

/-- No chain of the image has more blocks than the image. -/
theorem Chained.of_chain {content : Content} {geometry : Geometry} {first : Nat} {blocks : List Nat}
    (found : content.chain? geometry first = some blocks) :
    Chained geometry blocks geometry.blocks := by
  have isChain := Content.chain?_eq_some.mp found
  exact ⟨isChain.isData, geometry.length_le_blocks isChain.isData isChain.nodup⟩

theorem chain_chained (first : Nat) :
    Bears volume excused keeps (volume.chain first) fun blocks _ =>
      Chained volume.geometry blocks volume.geometry.blocks :=
  (chain_bears first).weaken (fun _ => id) fun _ _ _ => Chained.of_chain

theorem readPieces_bears (pieces : List Piece) :
    Bears volume excused keeps (volume.readPieces pieces) fun _ _ => True := by
  induction pieces with
  | nil => exact .pure fun _ _ => trivial
  | cons piece rest induction =>
      refine (Bears.except fun _ _ _ _ => trivial).andThen fun start => ?_
      refine (Device.read_bears keeps _ _).plain.andThen fun bytes => ?_
      exact induction.andThen fun others => .pure fun _ _ => trivial

/-- What is read lies within the capacity of the chain. -/
theorem readChain_bears (chain : List Nat) (offset length : Nat) :
    Bears volume excused keeps (volume.readChain chain offset length)
      fun _ _ => min (offset + length) (Limit.word64 - 1) ≤ volume.chainCapacity chain := by
  refine Bears.bind (Bears.except fun pieces _ covered _ => ?_) fun pieces =>
    (readPieces_bears pieces).weaken (fun _ => id) fun _ _ known _ => known.2
  rw [Volume.pieces] at covered
  split at covered
  · cases covered
  · next fits => exact Nat.not_lt.mp fits

section OfRecords

variable (ofRecords : OfRecords volume.geometry keeps)

include ofRecords

theorem writePieces_endures {blocks : List Nat} (offset length : Nat) (bytes : Bytes)
    (isData : ∀ block ∈ blocks, volume.geometry.IsData block) :
    Endures volume excused keeps
      (volume.writePieces (Piece.cover volume.geometry.payloadSize blocks offset length) bytes)
      (fun _ => keeps) keeps := by
  induction blocks generalizing offset length bytes with
  | nil => exact .pure fun _ => id
  | cons block rest induction =>
      have here := isData block List.mem_cons_self
      have others := fun other member => isData other (.tail block member)
      have start := volume.geometry.data_start_le here
      have stop := volume.geometry.data_end_le here
      have sum := volume.geometry.payloadSize_add
      rw [Piece.cover]
      split
      · exact .pure fun _ => id
      · split
        · exact induction _ _ _ others
        · refine .liftOk (volume.blockOffset_of_isData here) ?_
          refine .through keeps (Device.write_endures ?_ fun content known =>
            ofRecords.write (.inr ?_) known) fun _ => induction _ _ _ others
          · rw [List.length_take]
            dsimp only
            omega
          · exact Nat.le_trans start (Nat.le_add_right _ _)

theorem writeChain_endures {chain : List Nat} (offset : Nat) (bytes : Bytes)
    (isData : ∀ block ∈ chain, volume.geometry.IsData block) :
    Endures volume excused keeps (volume.writeChain chain offset bytes) (fun _ => keeps) keeps := by
  rw [writeChain, Volume.pieces]
  split
  · exact .throw _ _ fun _ => id
  · exact writePieces_endures ofRecords offset bytes.length bytes isData

theorem linkBlock_endures (block next : Nat) :
    Endures volume excused keeps (volume.linkBlock block next) (fun _ => keeps) keeps := by
  by_cases isData : volume.geometry.IsData block
  · rw [linkBlock, volume.linkOffset_of_isData isData]
    have stop := Area.stop_le_imageLength (.link block) isData
    have start := volume.geometry.data_start_le isData
    refine Device.write_endures ?_ fun content known => ofRecords.write (.inr ?_) known
    · rw [Bytes.length_ofNat]
      exact stop
    · exact Nat.le_trans start (Nat.le_add_right _ _)
  · rw [linkBlock, linkOffset, volume.checkDataBlock_of_not_isData isData]
    exact .throw _ _ fun _ => id

theorem writeBlock_endures (block : Nat) (payload : Bytes) (next : Nat) :
    Endures volume excused keeps (volume.writeBlock block payload next) (fun _ => keeps) keeps := by
  by_cases isData : volume.geometry.IsData block
  · rw [writeBlock, volume.checkDataBlock_of_isData isData, volume.blockOffset_of_isData isData]
    have start := volume.geometry.data_start_le isData
    have stop := volume.geometry.data_end_le isData
    have sum := volume.geometry.payloadSize_add
    refine .guard (fun _ => id) fun short => ?_
    refine Device.write_endures ?_ fun content known => ofRecords.write (.inr start) known
    simp only [List.length_append, Bytes.length_zeros, Bytes.length_ofNat, linkLength]
    omega
  · rw [writeBlock, volume.checkDataBlock_of_not_isData isData]
    exact .throw _ _ fun _ => id

theorem linkFresh_endures (blocks : List Nat) :
    Endures volume excused keeps (volume.linkFresh blocks) (fun _ => keeps) keeps := by
  induction blocks with
  | nil => exact .pure fun _ => id
  | cons block rest induction =>
      exact (writeBlock_endures ofRecords block [] (rest.headD 0)).bind fun _ => induction

theorem unlinkAll_endures (blocks : List Nat) :
    Endures volume excused keeps (volume.unlinkAll blocks) (fun _ => keeps) keeps := by
  induction blocks with
  | nil => exact .pure fun _ => id
  | cons block rest induction =>
      exact (linkBlock_endures ofRecords block 0).bind fun _ => induction

/-! Allocation -/

theorem writeCounter_endures (which : Counter) (value : Nat) :
    Endures volume excused keeps (volume.writeCounter which.offset value) (fun _ => keeps) keeps := by
  have stop := Area.counter_end_le volume.geometry which
  have table := volume.geometry.bitmap_le
  have data := volume.geometry.firstInode_le_dataStart
  have image := volume.geometry.data_start_le_imageLength
  simp only [Area.first, Area.length] at stop
  refine Device.write_endures ?_ fun content known => ofRecords.write (.inl ?_) known
  · rw [Bytes.length_ofNat]
    omega
  · rw [Bytes.length_ofNat]
    omega

theorem writeBitmap_endures (start : Nat) (bytes : Bytes) :
    Endures volume excused keeps (volume.writeBitmap start bytes) (fun _ => keeps) keeps := by
  have table := volume.geometry.bitmap_le
  have data := volume.geometry.firstInode_le_dataStart
  have image := volume.geometry.data_start_le_imageLength
  rw [writeBitmap]
  refine .guard (fun _ => id) fun fits => ?_
  exact Device.write_endures (by omega) fun content known => ofRecords.write (.inl (by omega)) known

theorem writeTouched_endures (bits : List Nat) (bitmap : Bytes) :
    Endures volume excused keeps (volume.writeTouched bits bitmap) (fun _ => keeps) keeps := by
  rw [writeTouched]
  split
  · exact writeBitmap_endures ofRecords _ _
  · exact .pure fun _ => id

theorem allocate_endures (count : Nat) :
    Endures volume excused keeps (volume.allocate count)
      (fun blocks content => keeps content ∧ Chained volume.geometry blocks volume.geometry.blocks)
      keeps := by
  refine .ite (fun _ => .pure fun _ known => ⟨known, by simp, Nat.zero_le _⟩) fun _ => ?_
  refine Endures.withLock _ _ ?_ fun _ => id
  refine .asking (Device.readWord_bears keeps _).plain (fun _ => id) fun free _ => ?_
  refine .guard (fun _ => id) fun _ => ?_
  refine .asking (Device.readWord_bears keeps _).plain (fun _ => id) fun cursor _ => ?_
  refine .asking (Device.read_bears keeps _ _).plain (fun _ => id) fun bitmap _ => ?_
  split
  · exact .throw _ _ fun _ => id
  · next choice chosen =>
    obtain ⟨usable, few⟩ := FirstFit.choose_usable chosen
    refine (writeTouched_endures ofRecords _ _).bind fun _ => ?_
    refine (writeCounter_endures ofRecords .freeBlocks _).bind fun _ => ?_
    refine (writeCounter_endures ofRecords .nextFreeBlock _).bind fun _ => ?_
    refine (linkFresh_endures ofRecords _).bind fun _ => .pure fun _ known => ⟨known, ?_, ?_⟩
    · intro block member
      obtain ⟨bit, isBit, rfl⟩ := List.mem_map.mp member
      exact volume.geometry.isData_blockOfBit (usable bit isBit)
    · rw [List.length_map]
      exact few

theorem free_endures (blocks : List Nat) :
    Endures volume excused keeps (volume.free blocks) (fun _ => keeps) keeps := by
  refine .ite (fun _ => .pure fun _ => id) fun _ => ?_
  refine .through keeps (.except (fun _ _ _ => id) fun _ => id) fun _ => ?_
  refine Endures.withLock _ _ ?_ fun _ => id
  refine .asking (Device.read_bears keeps _ _).plain (fun _ => id) fun bitmap _ => ?_
  refine .through keeps (.except (fun _ _ _ => id) fun _ => id) fun cleared => ?_
  refine .asking (Device.readWord_bears keeps _).plain (fun _ => id) fun count _ => ?_
  refine .guard (fun _ => id) fun _ => ?_
  refine (writeTouched_endures ofRecords _ _).bind fun _ => ?_
  refine (writeCounter_endures ofRecords .freeBlocks _).bind fun _ => ?_
  exact unlinkAll_endures ofRecords blocks

theorem freeChain_endures (first : Nat) :
    Endures volume excused keeps (volume.freeChain first) (fun _ => keeps) keeps := by
  refine .asking (chain_bears first).plain (fun _ => id) fun chain _ => ?_
  exact (free_endures ofRecords chain).bind fun _ => .pure fun _ => id

/-! Fitting a chain to a length -/

/-- A chain that grows has no more blocks than the image twice: its own ones, which the bitmap may
deny, and those that were free. -/
theorem growChain_endures {chain : List Nat} (length : Nat)
    (chained : Chained volume.geometry chain volume.geometry.blocks) :
    Endures volume excused keeps (volume.growChain chain length)
      (fun blocks content => keeps content ∧
        Chained volume.geometry blocks (2 * volume.geometry.blocks)) keeps := by
  refine .ite (fun _ => .pure fun _ known => ⟨known, chained.isData, ?_⟩) fun _ => ?_
  · exact Nat.le_trans chained.short (Nat.le_mul_of_pos_left _ (by decide))
  · refine (allocate_endures ofRecords _).bind fun fresh => ?_
    refine .given (fun _ known => known.2) fun chained' => ?_
    have together : Chained volume.geometry (chain ++ fresh) (2 * volume.geometry.blocks) := by
      refine ⟨fun block member => ?_, ?_⟩
      · exact (List.mem_append.mp member).elim (chained.isData block) (chained'.isData block)
      · have short := chained.short
        have short' := chained'.short
        rw [List.length_append]
        omega
    split
    · next tail _ =>
      refine .through keeps ?_ fun _ => .pure fun _ known => ⟨known, together⟩
      exact .forget (fun _ known => known.1) (linkBlock_endures ofRecords tail _)
    · exact .pure fun _ known => ⟨known.1, together⟩

theorem shrinkChain_endures (chain : List Nat) (length : Nat) :
    Endures volume excused keeps (volume.shrinkChain chain length)
      (fun result content => keeps content ∧
        result.2 = chain.take (volume.geometry.blocksFor length)) keeps := by
  refine .ite (fun short => .pure fun _ known => ⟨known, ?_⟩) fun _ => ?_
  · exact (List.take_of_length_le short).symm
  · refine .through keeps ?_ fun outcome => .pure fun _ known => ⟨known, rfl⟩
    refine Endures.attempt ?_ (fun _ _ => id) fun _ _ => id
    split
    · exact (linkBlock_endures ofRecords _ _).bind fun _ => free_endures ofRecords _
    · exact free_endures ofRecords _

end OfRecords

end Volume

end ImageFs
