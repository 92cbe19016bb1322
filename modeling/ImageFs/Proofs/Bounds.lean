import ImageFs.Proofs.Hold
import ImageFs.Proofs.Overruns

/-!
Where an image accesses its file. Main statements: the superblock, the bitmap, inode records and chains of
data blocks are read and written inside the image, whatever the bytes of the file and whoever else has
locks on it.
-/

namespace ImageFs

variable {α : Type}

/-! Offsets -/

namespace Piece

theorem cover_inside {payload : Nat} {blocks : List Nat} {offset length : Nat} :
    ∀ piece ∈ cover payload blocks offset length, piece.start + piece.length ≤ payload := by
  induction blocks generalizing offset length with
  | nil => exact nofun
  | cons block rest induction =>
      rw [cover]
      split
      · exact nofun
      · split
        · exact induction
        · next behind =>
          refine List.forall_mem_cons.mpr ⟨?_, induction⟩
          dsimp only
          omega

end Piece

theorem ByteRange.span_harmless (range : ByteRange) : Harmless range.span :=
  .ite (.error id) (.ite (.error id) (.ite (.ok _) (.ite (.error nofun) (.ok _))))

namespace Volume

variable {volume : Volume}

theorem blockOffset_harmless (block : Nat) : Harmless (volume.blockOffset block) := by
  rw [blockOffset]
  split
  · exact .ok _
  · exact .error id

theorem blockOffset_end_le {block start : Nat} (isStart : volume.blockOffset block = .ok start) :
    start + volume.geometry.blockSize ≤ volume.geometry.imageLength := by
  rw [blockOffset, Geometry.blockOffset?] at isStart
  split at isStart
  · next offset inside =>
    cases isStart
    split at inside
    · next valid =>
      cases inside
      exact volume.geometry.block_end_le valid
    · cases inside
  · cases isStart

theorem inodeOffset_harmless (inode : Nat) : Harmless (volume.inodeOffset inode) := by
  rw [inodeOffset]
  split
  · exact .ok _
  · exact .error id

theorem inodeOffset_end_le {inode start : Nat} (isStart : volume.inodeOffset inode = .ok start) :
    start + recordLength ≤ volume.geometry.imageLength := by
  by_cases valid : inode < volume.geometry.inodeCount
  · rw [volume.inodeOffset_of_lt valid] at isStart
    cases isStart
    exact Area.stop_le_imageLength (.record inode) valid
  · rw [volume.inodeOffset_of_le (Nat.not_lt.mp valid)] at isStart
    cases isStart

theorem checkDataBlock_harmless (block : Nat) : Harmless (volume.checkDataBlock block) := by
  rw [checkDataBlock]
  split
  · exact .ok _
  · exact .error id

theorem linkOffset_harmless (block : Nat) : Harmless (volume.linkOffset block) :=
  (checkDataBlock_harmless block).bind fun _ => (blockOffset_harmless block).bind fun _ => .ok _

theorem linkOffset_end_le {block start : Nat} (isStart : volume.linkOffset block = .ok start) :
    start + 8 ≤ volume.geometry.imageLength := by
  by_cases isData : volume.geometry.IsData block
  · rw [volume.linkOffset_of_isData isData] at isStart
    cases isStart
    exact Area.stop_le_imageLength (.link block) isData
  · rw [linkOffset, volume.checkDataBlock_of_not_isData isData] at isStart
    cases isStart

theorem pieces_harmless (chain : List Nat) (offset length : Nat) :
    Harmless (volume.pieces chain offset length) :=
  .ite (.error id) (.ok _)

theorem pieces_inside {chain : List Nat} {offset length : Nat} {pieces : List Piece}
    (arePieces : volume.pieces chain offset length = .ok pieces) :
    ∀ piece ∈ pieces, piece.start + piece.length ≤ volume.geometry.blockSize := by
  rw [Volume.pieces] at arePieces
  split at arePieces
  · cases arePieces
  · cases arePieces
    intro piece member
    have inside := Piece.cover_inside piece member
    have whole := volume.geometry.payloadSize_add
    omega

/-! Accesses -/

theorem read_inside {offset count : Nat} (inside : offset + count ≤ volume.geometry.imageLength) :
    (volume.device.read offset count).Inside volume.geometry := by
  intro backing long halt ends
  rw [volume.read_of_long long inside] at ends
  cases ends

theorem readWord_inside {offset : Nat} (inside : offset + 8 ≤ volume.geometry.imageLength) :
    (volume.device.readWord offset).Inside volume.geometry :=
  (read_inside inside).bind fun _ => .pure _

theorem write_inside {offset : Nat} {bytes : Bytes}
    (inside : offset + bytes.length ≤ volume.geometry.imageLength) :
    (volume.device.write offset bytes).Inside volume.geometry := by
  intro backing long
  rw [volume.write_apply backing inside]
  exact ⟨backing.content.size_write_of_fits (Nat.le_trans inside long), nofun⟩

theorem writeWord_inside {offset value : Nat} (inside : offset + 8 ≤ volume.geometry.imageLength) :
    (volume.device.writeWord offset value).Inside volume.geometry :=
  write_inside (by rwa [Bytes.length_ofNat])

end Volume

/-! Locks -/

namespace Device

variable {device : Device} {geometry : Geometry} {range : ByteRange} {kind : LockKind}

theorem lock_inside (wait : Bool) : (device.lock range kind wait).Inside geometry := by
  refine (Update.Inside.except range.span_harmless).bind fun span backing long => ?_
  cases backing.locks.request device.owner kind span with
  | some locks => exact ⟨rfl, nofun⟩
  | none =>
      cases wait with
      | true => exact ⟨rfl, fun halt waits => by cases waits; exact id⟩
      | false => exact ⟨rfl, nofun⟩

theorem unlock_inside : (device.unlock range).Inside geometry :=
  (Update.Inside.except range.span_harmless).bind fun _ _ _ => ⟨rfl, nofun⟩

theorem withLock_inside {body : Update α} (inside : body.Inside geometry) :
    (device.withLock range kind body).Inside geometry :=
  ((lock_inside true).bind fun _ => .pure _).bind fun _ => inside.ensuring unlock_inside

end Device

namespace DirectoryLock

variable {volume : Volume} {kind : LockKind}

theorem readHolders_inside : volume.directoryLock.readHolders.Inside volume.geometry :=
  Volume.readWord_inside counter_end_le

theorem writeHolders_inside (count : Nat) :
    (volume.directoryLock.writeHolders count).Inside volume.geometry :=
  Volume.writeWord_inside counter_end_le

theorem holders_inside : volume.directoryLock.holders.Inside volume.geometry :=
  Device.withLock_inside (.ask readHolders_inside)

theorem registerWith_inside {attempt : Update Bool} (inside : attempt.Inside volume.geometry) :
    (volume.directoryLock.registerWith attempt).Inside volume.geometry := by
  refine Device.withLock_inside ((Update.Inside.ask readHolders_inside).bind fun before => ?_)
  refine .ite (.throw id) ((writeHolders_inside _).bind fun _ => ?_)
  refine .ite (inside.tryCatch fun error harmless => ?_) (.pure _)
  exact (writeHolders_inside _).bind fun _ => .throw harmless

theorem decrement_inside : volume.directoryLock.decrement.Inside volume.geometry := by
  refine Device.withLock_inside ((Update.Inside.ask readHolders_inside).bind fun before => ?_)
  exact .ite (writeHolders_inside _) (.pure _)

theorem acquire_inside : (volume.directoryLock.acquire kind).Inside volume.geometry := by
  refine (registerWith_inside (Device.lock_inside false)).bind fun fast => ?_
  refine .ite (Update.Inside.tryCatch ?_ fun error harmless => ?_) (.pure _)
  · exact (Device.lock_inside true).bind fun _ => .pure _
  · exact (Update.Inside.attempt decrement_inside fun _ _ => .pure _).bind fun _ => .throw harmless

theorem release_inside : volume.directoryLock.release.Inside volume.geometry := by
  refine Update.Inside.attempt Device.unlock_inside fun unlocked harmless => ?_
  refine Update.Inside.attempt decrement_inside fun decremented harmless' => ?_
  exact (Update.Inside.except harmless).bind fun _ => .except harmless'

end DirectoryLock

namespace Volume

variable {volume : Volume}

theorem withDirectoryLock_inside {kind : LockKind} {body : Update α}
    (inside : body.Inside volume.geometry) :
    (volume.withDirectoryLock kind body).Inside volume.geometry := by
  rw [withDirectoryLock, volume.directoryLock_of_volume]
  exact DirectoryLock.acquire_inside.bind fun _ => inside.ensuring DirectoryLock.release_inside

theorem withInode_inside {number : Nat} {kind : LockKind} {body : Update α}
    (inside : body.Inside volume.geometry) :
    (volume.withInode number kind body).Inside volume.geometry :=
  (Update.Inside.except ((inodeOffset_harmless number).bind fun _ => .ok _)).bind fun _ =>
    Device.withLock_inside inside

theorem withBlock_inside {block : Nat} {kind : LockKind} {body : Update α}
    (inside : body.Inside volume.geometry) :
    (volume.withBlock block kind body).Inside volume.geometry := by
  have range : Harmless (volume.dataBlockRange block) :=
    (checkDataBlock_harmless block).bind fun _ => (blockOffset_harmless block).bind fun _ => .ok _
  exact (Update.Inside.except range).bind fun _ => Device.withLock_inside inside

/-! The superblock and the bitmap -/

theorem readSuperblock_inside : volume.readSuperblock.Inside volume.geometry := by
  have fits : 0 + Superblock.length ≤ volume.geometry.imageLength := by
    have minimum := volume.geometry.minimum
    have bitmap := volume.geometry.bitmap_le
    have table := volume.geometry.firstInode_le_dataStart
    have start := volume.geometry.data_start_le_imageLength
    rw [Geometry.bitmapOffset] at bitmap
    rw [Superblock.length]
    omega
  exact (read_inside fits).bind fun _ => .except (.mapError fun _ => id)

theorem readCounter_inside (which : Counter) :
    (volume.readCounter which.offset).Inside volume.geometry :=
  readWord_inside (Area.stop_le_imageLength (.counter which) trivial)

theorem writeCounter_inside (which : Counter) (value : Nat) :
    (volume.writeCounter which.offset value).Inside volume.geometry :=
  writeWord_inside (Area.stop_le_imageLength (.counter which) trivial)

theorem readBitmap_inside : volume.readBitmap.Inside volume.geometry :=
  read_inside (Area.stop_le_imageLength .bitmap trivial)

theorem writeTouched_inside (bits : List Nat) (bitmap : Bytes) :
    (volume.writeTouched bits bitmap).Inside volume.geometry := by
  have bitmapEnd : volume.geometry.bitmapOffset + volume.geometry.bitmapLength ≤
      volume.geometry.imageLength := Area.stop_le_imageLength .bitmap trivial
  rw [writeTouched]
  split
  · exact .guard id fun fits => write_inside (by omega)
  · exact .pure ()

/-! Inode records -/

theorem getInode_inside (number : Nat) : (volume.getInode number).Inside volume.geometry := by
  refine (Query.Inside.given (inodeOffset_harmless number) fun offset isOffset => ?_).bind
    fun record => .except (.mapError fun _ => id)
  exact read_inside (inodeOffset_end_le isOffset)

theorem putInode_inside (number : Nat) (inode : Inode) :
    (volume.putInode number inode).Inside volume.geometry := by
  refine .ite (.throw id) ?_
  refine Update.Inside.given (.mapError fun _ => id) fun record isRecord => ?_
  have length : record.length = recordLength :=
    Inode.length_encode (Except.mapError_eq_ok_iff.mp isRecord)
  refine Update.Inside.given (inodeOffset_harmless number) fun offset isOffset => ?_
  exact write_inside (length ▸ inodeOffset_end_le isOffset)

/-! Chains -/

theorem nextBlock_inside (block : Nat) : (volume.nextBlock block).Inside volume.geometry :=
  .given (linkOffset_harmless block) fun _ isOffset => readWord_inside (linkOffset_end_le isOffset)

theorem linkBlock_inside (block next : Nat) : (volume.linkBlock block next).Inside volume.geometry :=
  .given (linkOffset_harmless block) fun _ isOffset => writeWord_inside (linkOffset_end_le isOffset)

theorem writeBlock_inside (block : Nat) (payload : Bytes) (next : Nat) :
    (volume.writeBlock block payload next).Inside volume.geometry := by
  refine (Update.Inside.except (checkDataBlock_harmless block)).bind fun _ => ?_
  refine Update.Inside.guard id fun fits => ?_
  refine Update.Inside.given (blockOffset_harmless block) fun start isStart => write_inside ?_
  have inside := blockOffset_end_le isStart
  have whole := volume.geometry.payloadSize_add
  rw [List.length_append, List.length_append, Bytes.length_zeros, Bytes.length_ofNat, linkLength]
  omega

theorem walkChain_inside (first budget current : Nat) :
    (volume.walkChain first budget current).Inside volume.geometry := by
  induction budget generalizing current with
  | zero =>
      rw [walkChain.eq_def]
      exact .ite (.pure _) ((Query.Inside.except (checkDataBlock_harmless _)).bind fun _ => .throw id)
  | succ budget induction =>
      rw [walkChain.eq_def]
      refine .ite (.pure _) ((Query.Inside.except (checkDataBlock_harmless _)).bind fun _ => ?_)
      exact (nextBlock_inside current).bind fun next => (induction next).bind fun _ => .pure _

theorem chain_inside (first : Nat) : (volume.chain first).Inside volume.geometry :=
  walkChain_inside first _ first

theorem readPieces_inside {pieces : List Piece}
    (within : ∀ piece ∈ pieces, piece.start + piece.length ≤ volume.geometry.blockSize) :
    (volume.readPieces pieces).Inside volume.geometry := by
  induction pieces with
  | nil => exact .pure []
  | cons piece rest induction =>
      obtain ⟨here, others⟩ := List.forall_mem_cons.mp within
      refine Query.Inside.given (blockOffset_harmless piece.block) fun start isStart => ?_
      have stops := blockOffset_end_le isStart
      refine (read_inside (by omega)).bind fun bytes => ?_
      exact (induction others).bind fun _ => .pure _

theorem writePieces_inside {pieces : List Piece} (bytes : Bytes)
    (within : ∀ piece ∈ pieces, piece.start + piece.length ≤ volume.geometry.blockSize) :
    (volume.writePieces pieces bytes).Inside volume.geometry := by
  induction pieces generalizing bytes with
  | nil => exact .pure ()
  | cons piece rest induction =>
      obtain ⟨here, others⟩ := List.forall_mem_cons.mp within
      refine Update.Inside.given (blockOffset_harmless piece.block) fun start isStart => ?_
      have stops := blockOffset_end_le isStart
      refine (write_inside ?_).bind fun _ => induction _ others
      rw [List.length_take]
      omega

theorem readChain_inside (chain : List Nat) (offset length : Nat) :
    (volume.readChain chain offset length).Inside volume.geometry :=
  .given (pieces_harmless chain offset length) fun _ arePieces =>
    readPieces_inside (pieces_inside arePieces)

theorem writeChain_inside (chain : List Nat) (offset : Nat) (bytes : Bytes) :
    (volume.writeChain chain offset bytes).Inside volume.geometry :=
  .given (pieces_harmless chain offset bytes.length) fun _ arePieces =>
    writePieces_inside bytes (pieces_inside arePieces)

/-! Handing out and taking back -/

theorem linkFresh_inside (blocks : List Nat) : (volume.linkFresh blocks).Inside volume.geometry := by
  induction blocks with
  | nil => exact .pure ()
  | cons block rest induction => exact (writeBlock_inside block [] _).bind fun _ => induction

theorem unlinkAll_inside (blocks : List Nat) : (volume.unlinkAll blocks).Inside volume.geometry := by
  induction blocks with
  | nil => exact .pure ()
  | cons block rest induction => exact (linkBlock_inside block 0).bind fun _ => induction

theorem allocate_inside (count : Nat) : (volume.allocate count).Inside volume.geometry := by
  refine .ite (.pure _) (Device.withLock_inside ?_)
  refine (Update.Inside.ask (readCounter_inside .freeBlocks)).bind fun free => .ite (.throw id) ?_
  refine (Update.Inside.ask (readCounter_inside .nextFreeBlock)).bind fun cursor => ?_
  refine (Update.Inside.ask readBitmap_inside).bind fun bitmap => ?_
  cases FirstFit.choose bitmap volume.geometry.blocks cursor count with
  | none => exact .throw id
  | some choice =>
      refine (writeTouched_inside _ _).bind fun _ => (writeCounter_inside .freeBlocks _).bind fun _ => ?_
      refine (writeCounter_inside .nextFreeBlock _).bind fun _ => ?_
      exact (linkFresh_inside _).bind fun _ => .pure _

theorem checkFreeable_harmless (blocks : List Nat) : Harmless (volume.checkFreeable blocks) := by
  induction blocks with
  | nil => exact .ok ()
  | cons block rest induction =>
      exact (checkDataBlock_harmless block).bind fun _ => .ite (.error id) induction

theorem clearBits_harmless (bitmap : Bytes) (blocks : List Nat) :
    Harmless (volume.clearBits bitmap blocks) := by
  induction blocks generalizing bitmap with
  | nil => exact .ok bitmap
  | cons block rest induction => exact .ite (induction _) (.error id)

theorem free_inside (blocks : List Nat) : (volume.free blocks).Inside volume.geometry := by
  refine .ite (.pure _) ((Update.Inside.except (checkFreeable_harmless blocks)).bind fun _ => ?_)
  refine Device.withLock_inside ((Update.Inside.ask readBitmap_inside).bind fun bitmap => ?_)
  refine (Update.Inside.except (clearBits_harmless bitmap blocks)).bind fun cleared => ?_
  refine (Update.Inside.ask (readCounter_inside .freeBlocks)).bind fun count => .ite (.throw id) ?_
  refine (writeTouched_inside _ _).bind fun _ => (writeCounter_inside .freeBlocks _).bind fun _ => ?_
  exact unlinkAll_inside blocks

theorem freeChain_inside (first : Nat) : (volume.freeChain first).Inside volume.geometry :=
  (Update.Inside.ask (chain_inside first)).bind fun chain => (free_inside chain).bind fun _ => .pure _

theorem growChain_inside (chain : List Nat) (length : Nat) :
    (volume.growChain chain length).Inside volume.geometry := by
  refine .ite (.pure _) ((allocate_inside _).bind fun fresh => ?_)
  cases chain.getLast? with
  | none => exact .pure _
  | some tail => exact (linkBlock_inside tail _).bind fun _ => .pure _

/-- What shrinking a chain hands over as its outcome is no overrun. -/
theorem shrinkChain_inside (chain : List Nat) (length : Nat)
    {next : Except FsError Unit × List Nat → Update α}
    (second : ∀ outcome left, Harmless outcome → (next (outcome, left)).Inside volume.geometry) :
    (volume.shrinkChain chain length >>= next).Inside volume.geometry := by
  rw [shrinkChain]
  split
  · exact second _ _ (.ok ())
  · rw [bind_assoc]
    refine Update.Inside.attempt ?_ fun outcome harmless => second _ _ harmless
    cases (chain.take (volume.geometry.blocksFor length)).getLast? with
    | none => exact free_inside _
    | some tail => exact (linkBlock_inside tail 0).bind fun _ => free_inside _

end Volume

end ImageFs
