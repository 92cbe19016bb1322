import ImageFs.Proofs.Contained
import ImageFs.Proofs.Persistence
import ImageFs.Proofs.RoundTrip
import ImageFs.Proofs.Verdict

/-!
Opening a file as an image. Main statement: a file opens exactly when it begins with the superblock of a
geometry and is long enough for it; it is left as it was; and once it is open, nothing that is asked of
the image reaches behind the end of a file that keeps its length.
-/

namespace ImageFs

/-! Superblocks -/

namespace Superblock

/-- The fields that the geometry determines are as it determines them, and the others lie in range. -/
structure Agrees (superblock : Superblock) (geometry : Geometry) : Prop where
  bitmapBlocks : superblock.bitmapBlocks.toNat = geometry.bitmapBlocks
  inodeTableBlocks : superblock.inodeTableBlocks.toNat = geometry.inodeTableBlocks
  dataStart : superblock.dataStart.toNat = geometry.dataStart
  firstInodeBlock : superblock.firstInodeBlock.toNat = geometry.firstInodeBlock
  inodeCount : superblock.inodeCount.toNat = geometry.inodeCount
  freeBlocks : superblock.freeBlocks < superblock.blocks
  nextFreeInode : superblock.nextFreeInode < superblock.inodeCount

/-- A file begins with the superblock of an image of this geometry, and is long enough for it. -/
structure Heads (superblock : Superblock) (geometry : Geometry) (content : Content) : Prop where
  whole : 80 ≤ content.size
  encoded : content.read 0 80 = superblock.encode
  magic : superblock.magic = 0x4A5B
  sizes : Geometry.ofSizes superblock.blockSize superblock.blocks = .ok geometry
  agrees : superblock.Agrees geometry
  long : geometry.imageLength ≤ content.size

variable {superblock : Superblock} {region : Bytes}

theorem agree_eq_ok_iff {geometry : Geometry} :
    superblock.agree geometry = .ok () ↔ superblock.Agrees geometry := by
  unfold agree
  constructor
  · intro agrees
    split at agrees
    · cases agrees
    · next same =>
      have fields := List.find?_eq_none.mp same
      simp only [derivedFields, List.forall_mem_cons, decide_eq_true_eq, ne_eq, not_not] at fields
      obtain ⟨bitmapBlocks, inodeTableBlocks, dataStart, firstInodeBlock, inodeCount, -⟩ := fields
      split at agrees
      · cases agrees
      · next free =>
        split at agrees
        · cases agrees
        · next cursor =>
          exact ⟨bitmapBlocks, inodeTableBlocks, dataStart, firstInodeBlock, inodeCount,
            UInt64.not_le.mp free, UInt64.not_le.mp cursor⟩
  · intro facts
    split
    · next name stored derived found =>
      have differs := List.find?_some found
      have member := List.mem_of_find?_eq_some found
      have same : stored = derived := by
        simp only [derivedFields, List.mem_cons, List.not_mem_nil, or_false, Prod.mk.injEq] at member
        rcases member with ⟨-, rfl, rfl⟩ | ⟨-, rfl, rfl⟩ | ⟨-, rfl, rfl⟩ | ⟨-, rfl, rfl⟩ | ⟨-, rfl, rfl⟩
        · exact facts.bitmapBlocks
        · exact facts.inodeTableBlocks
        · exact facts.dataStart
        · exact facts.firstInodeBlock
        · exact facts.inodeCount
      simp [same] at differs
    · rw [if_neg (UInt64.not_le.mpr facts.freeBlocks), if_neg (UInt64.not_le.mpr facts.nextFreeInode)]

theorem magic_of_parse (parsed : parse region = .ok superblock) : superblock.magic = magicNumber := by
  unfold parse at parsed
  obtain ⟨magic, -, parsed⟩ := Except.exists_of_bind_ok parsed
  split at parsed
  · cases parsed
  · next isMagic =>
    obtain ⟨record, -, parsed⟩ := Except.exists_of_bind_ok parsed
    simp only [bind, Except.bind, pure, Except.pure] at parsed
    iterate 10 split at parsed; cases parsed
    cases parsed
    exact not_not.mp isMagic

theorem parse_eq_ok_iff (length : region.length = 80) :
    parse region = .ok superblock ↔ region = superblock.encode ∧ superblock.magic = magicNumber := by
  constructor
  · intro parsed
    refine ⟨?_, magic_of_parse parsed⟩
    exact ((encode_of_parse parsed).eq_of_length (by rw [length_encode, length])).symm
  · rintro ⟨rfl, magic⟩
    exact parse_encode magic

/-- The magic number is judged before all other bytes. -/
theorem parse_of_wrong_magic (long : 4 ≤ region.length)
    (wrong : Bytes.toUInt32 (region.take 4) ≠ magicNumber) :
    parse region = .error (.wrongMagic magicNumber.toNat (Bytes.toUInt32 (region.take 4)).toNat) := by
  have read : Field.readWord32 region 0 = .ok (Bytes.toUInt32 (region.take 4)) := by
    rw [Field.readWord32, Field.slice_of_le (by omega) (by decide), List.drop_zero]
    rfl
  unfold parse
  rw [read]
  exact if_pos wrong

end Superblock

/-! Devices -/

/-- A device on a file that has kept its length reads what lies inside. -/
theorem Device.read_of_inside {device : Device} {backing : Backing} {offset count : Nat}
    (whole : device.length = backing.content.size) (short : offset + count < Limit.word64)
    (inside : offset + count ≤ backing.content.size) :
    device.read offset count backing = .ok (backing.content.read offset count) := by
  have bounds : device.checkBounds .read offset count = .ok () := by
    rw [Device.checkBounds, if_neg (by omega), if_neg (by omega)]
  unfold Device.read
  rw [bounds]
  exact if_neg (by omega)

namespace Image

variable {path : String} {device : Device} {backing : Backing}

theorem ofDevice_eq_ok_iff {image : Image} (whole : device.length = backing.content.size) :
    ofDevice path device backing = .ok image ↔
      (∃ superblock : Superblock, superblock.Heads image.volume.geometry backing.content) ∧
        image.volume.device = device ∧ image.files = .empty := by
  constructor
  · intro opens
    unfold ofDevice at opens
    split at opens
    · cases opens
    · next long =>
      rw [whole] at long
      obtain ⟨region, read, opens⟩ := Query.exists_of_bind_ok opens
      obtain ⟨superblock, parsed, opens⟩ := Query.exists_of_bind_ok opens
      obtain ⟨geometry, sized, opens⟩ := Query.exists_of_bind_ok opens
      obtain ⟨agrees, agreed, opens⟩ := Query.exists_of_bind_ok opens
      obtain ⟨volume, fits, opens⟩ := Query.exists_of_bind_ok opens
      rw [Device.read_of_inside whole (by decide) (by omega)] at read
      cases read
      have isSuperblock := Except.mapError_eq_ok_iff.mp (Except.mapError_eq_ok_iff.mp parsed)
      rw [Superblock.parse_eq_ok_iff (Content.length_read ..)] at isSuperblock
      have isAgreed := Except.mapError_eq_ok_iff.mp (Except.mapError_eq_ok_iff.mp agreed)
      have isVolume := Except.mapError_eq_ok_iff.mp fits
      unfold Volume.ofDevice at isVolume
      split at isVolume
      · next enough =>
        cases isVolume
        cases opens
        exact ⟨⟨superblock, Nat.not_lt.mp long, isSuperblock.1, isSuperblock.2,
          Except.mapError_eq_ok_iff.mp sized, Superblock.agree_eq_ok_iff.mp isAgreed, whole ▸ enough⟩,
          rfl, rfl⟩
      · cases isVolume
  · rintro ⟨⟨superblock, heads⟩, rfl, isEmpty⟩
    obtain ⟨volume, files⟩ := image
    cases isEmpty
    have long : ¬ volume.device.length < Superblock.length := by
      rw [whole]
      exact Nat.not_lt.mpr heads.whole
    have parsed : Superblock.parse (backing.content.read 0 80) = .ok superblock :=
      (Superblock.parse_eq_ok_iff (Content.length_read ..)).mpr ⟨heads.encoded, heads.magic⟩
    have fits : Volume.ofDevice volume.device volume.geometry = .ok volume := dif_pos volume.fits
    unfold ofDevice
    rw [if_neg long]
    apply (Query.bind_ok (Device.read_of_inside whole (by decide) heads.whole)).trans
    rw [parsed]
    apply (Query.bind_ok rfl).trans
    rw [heads.sizes]
    apply (Query.bind_ok rfl).trans
    rw [Superblock.agree_eq_ok_iff.mpr heads.agrees]
    apply (Query.bind_ok rfl).trans
    rw [fits]
    exact Query.bind_ok rfl

/-- A wrong magic number is told whatever the other bytes are. -/
theorem ofDevice_of_wrong_magic (whole : device.length = backing.content.size)
    (long : 80 ≤ backing.content.size)
    (wrong : Bytes.toUInt32 (backing.content.read 0 4) ≠ Superblock.magicNumber) :
    ofDevice path device backing =
      .error (.failed (.badMagic (Bytes.toUInt32 (backing.content.read 0 4)).toNat)) := by
  have front : (backing.content.read 0 80).take 4 = backing.content.read 0 4 := by
    rw [Content.read_append backing.content 0 4 76]
    simp
  have parsed := @Superblock.parse_of_wrong_magic (backing.content.read 0 80) (by simp)
    (by rwa [front])
  have small : (Bytes.toUInt32 (backing.content.read 0 4)).toNat ≤ Limit.word32 - 1 :=
    Nat.le_pred_of_lt (UInt32.toNat_lt _)
  unfold ofDevice
  rw [if_neg (by rw [whole]; exact Nat.not_lt.mpr long)]
  apply (Query.bind_ok (Device.read_of_inside whole (by decide) long)).trans
  rw [parsed, front]
  apply (Query.bind_error rfl).trans
  rw [RecordError.toMisfit, Nat.min_eq_left small]

end Image

/-! Places in a file -/

/-- The data blocks, the bytes of the bitmap and the inode records lie in the first bytes of a file. -/
structure Geometry.LiesWithin (geometry : Geometry) (length : Nat) : Prop where
  dataBlock (block : Nat) (isData : geometry.dataStart ≤ block ∧ block < geometry.totalBlocks) :
    ∃ offset, geometry.blockOffset? block = some offset ∧ offset + geometry.blockSize ≤ length
  bitmapByte (index : Nat) (inside : index < geometry.bitmapLength) :
    geometry.bitmapOffset + index < length
  inodeRecord (inode : Nat) (inside : inode < geometry.inodeCount) :
    ∃ offset, geometry.inodeOffset? inode = some offset ∧ offset + 256 ≤ length

theorem Geometry.liesWithin {geometry : Geometry} {length : Nat}
    (long : geometry.imageLength ≤ length) : geometry.LiesWithin length where
  dataBlock block isData :=
    ⟨_, if_pos isData.2, Nat.le_trans (geometry.data_end_le isData) long⟩
  bitmapByte index inside := by
    have bitmapEnd : geometry.bitmapOffset + geometry.bitmapLength ≤ geometry.imageLength :=
      Area.stop_le_imageLength .bitmap trivial
    omega
  inodeRecord inode inside :=
    ⟨_, if_pos inside, Nat.le_trans (Area.stop_le_imageLength (.record inode) inside) long⟩

namespace Host

variable {host : Host} {name : String} {path : HostPath} {backing : Backing}

/-- Opening a file as an image leaves every file of the host as it is. -/
theorem node?_openImage (isFile : host.file name = .ok (path, backing)) (other : HostPath) :
    (host.openImage name).2.node? other = host.node? other := by
  have before : host.node? path = some (.file backing) := node?_of_file isFile
  rw [openImage_of_file isFile]
  dsimp only
  by_cases same : other = path
  · rw [same, node?_put, before]
  · exact node?_put_of_ne same _

/-- A file opens as an image exactly when it begins with the superblock of a geometry for which it is long
enough. It is left as it was, a wrong magic number is told before anything else, and once it is open no
operation accesses it behind its end while it keeps its length. -/
theorem openImage_exact (isFile : host.file name = .ok (path, backing)) :
    (∀ other, (host.openImage name).2.node? other = host.node? other) ∧
    ((∃ mounted, (host.openImage name).1 = .ok mounted) ↔
      ∃ (superblock : Superblock) (geometry : Geometry),
        superblock.Heads geometry backing.content) ∧
    (80 ≤ backing.content.size → Bytes.toUInt32 (backing.content.read 0 4) ≠ 0x4A5B →
      (host.openImage name).1 =
        .error (.failed (.badMagic (Bytes.toUInt32 (backing.content.read 0 4)).toNat))) ∧
    ∀ mounted, (host.openImage name).1 = .ok mounted →
      mounted.path = path ∧
      (∃ superblock : Superblock,
        superblock.Heads mounted.image.volume.geometry backing.content) ∧
      mounted.image.volume.geometry.LiesWithin backing.content.size ∧
      ∀ (files : OpenFiles) (operation : Image.Operation) (current : Backing),
        current.content.size = backing.content.size →
        let ended := ({ mounted.image with files } : Image).perform operation current
        ended.2.2.content.size = backing.content.size ∧
        ∀ error, ended.1 = .error (.failed error) → ¬ error.Overruns := by
  let device : Device := ⟨host.nextOwner, backing.content.size⟩
  have answers : (host.openImage name).1 =
      (Image.ofDevice name device backing).map fun image => ⟨path, image⟩ :=
    congrArg Prod.fst (openImage_of_file isFile)
  have accepts (image : Image) := @Image.ofDevice_eq_ok_iff name device backing image rfl
  -- what has been opened is the image on the device
  have opened {mounted : Mounted} (opens : (host.openImage name).1 = .ok mounted) :
      mounted.path = path ∧ Image.ofDevice name device backing = .ok mounted.image := by
    rw [answers] at opens
    cases found : Image.ofDevice name device backing with
    | error halt =>
        rw [found] at opens
        cases opens
    | ok image =>
        rw [found] at opens
        cases opens
        exact ⟨rfl, rfl⟩
  refine ⟨node?_openImage isFile, ⟨?_, ?_⟩, fun long wrong => ?_, fun mounted opens => ?_⟩
  · rintro ⟨mounted, opens⟩
    obtain ⟨superblock, heads⟩ := ((accepts mounted.image).mp (opened opens).2).1
    exact ⟨superblock, _, heads⟩
  · rintro ⟨superblock, geometry, heads⟩
    have opens := (accepts ⟨⟨device, geometry, heads.long⟩, .empty⟩).mpr ⟨⟨superblock, heads⟩, rfl, rfl⟩
    rw [answers, opens]
    exact ⟨_, rfl⟩
  · have fails := @Image.ofDevice_of_wrong_magic name device backing rfl long wrong
    rw [answers, fails]
    rfl
  · obtain ⟨isPath, opens⟩ := opened opens
    obtain ⟨superblock, heads⟩ := ((accepts mounted.image).mp opens).1
    refine ⟨isPath, ⟨superblock, heads⟩, Geometry.liesWithin heads.long, ?_⟩
    intro files operation current same
    obtain ⟨size, harmless⟩ := Image.perform_inside { mounted.image with files } operation
      (same ▸ heads.long : _ ≤ current.content.size)
    exact ⟨size.trans same, fun error ends => harmless _ ends⟩

/-- The file of a new image opens, and one with eighty zeros does not. -/
theorem openImage_exact_smallest :
    (∃ (host : Host) (backing : Backing), host.file "image" = .ok (⟨["image"]⟩, backing) ∧
      (∃ mounted, (host.openImage "image").1 = .ok mounted) ∧
      ∃ superblock : Superblock, superblock.Heads Session.smallest backing.content) ∧
    ∃ host : Host, host.file "image" = .ok (⟨["image"]⟩, ⟨Content.empty.resize 80, []⟩) ∧
      (host.openImage "image").1 = .error (.failed (.badMagic 0)) := by
  have placed := Session.place_image
  constructor
  · let sizes : ImageSizes :=
      ⟨(Superblock.fresh Session.smallest).blockSize, (Superblock.fresh Session.smallest).blocks⟩
    have sized : Geometry.ofSizes sizes.blockSize sizes.blocks = .ok Session.smallest :=
      Superblock.ofSizes_fresh Session.smallest
    obtain ⟨host, backing, -, isFile, order, -⟩ :=
      Session.initImage_inOrder sized placed (by decide)
    obtain ⟨-, -, -, opened⟩ := openImage_exact isFile
    have opens := congrArg Prod.fst (order.openImage_answers isFile)
    obtain ⟨-, heads, -⟩ := opened _ opens
    exact ⟨host, backing, isFile, ⟨_, opens⟩, heads⟩
  · let zeros : Backing := ⟨Content.empty.resize 80, []⟩
    let host := (Host.inside .root).put ⟨["image"]⟩ (.file zeros)
    obtain ⟨-, -, -, -, -, isFree⟩ := of_place placed
    have isFile : host.file "image" = .ok (⟨["image"]⟩, zeros) :=
      file_of_place placed ((Later.refl _).put isFree zeros) (node?_put ..)
    have isZero : Bytes.toUInt32 (zeros.content.read 0 4) = 0 := by decide +kernel
    obtain ⟨-, -, told, -⟩ := openImage_exact isFile
    have fails := told (by decide) (by rw [isZero]; decide)
    rw [isZero] at fails
    exact ⟨host, isFile, fails⟩

end Host

end ImageFs
