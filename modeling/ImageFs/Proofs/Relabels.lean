import Mathlib.Logic.Equiv.Basic
import ImageFs.Proofs.Codec
import ImageFs.Proofs.Metadata

/-!
Files that differ only in what their inodes hold. Main statement: metadata stays sound when two
directories exchange their contents, and when an empty directory becomes a file.
-/

namespace ImageFs

/-- The inode with the content of another one. -/
def Inode.holding (inode source : Inode) : Inode where
  name := inode.name
  kind := inode.kind
  generation := inode.generation
  size := source.size
  firstBlock := source.firstBlock

@[simp] theorem Inode.name_holding (inode source : Inode) :
    (inode.holding source).name = inode.name := rfl

@[simp] theorem Inode.size_holding (inode source : Inode) :
    (inode.holding source).size = source.size := rfl

@[simp] theorem Inode.firstBlock_holding (inode source : Inode) :
    (inode.holding source).firstBlock = source.firstBlock := rfl

/-- The inode as one of a file. -/
def Inode.asFile (inode : Inode) : Inode where
  name := inode.name
  kind := .file
  generation := inode.generation
  size := inode.size
  firstBlock := inode.firstBlock

@[simp] theorem Inode.name_asFile (inode : Inode) : inode.asFile.name = inode.name := rfl

@[simp] theorem Inode.size_asFile (inode : Inode) : inode.asFile.size = inode.size := rfl

@[simp] theorem Inode.firstBlock_asFile (inode : Inode) :
    inode.asFile.firstBlock = inode.firstBlock := rfl

namespace Content

variable {geometry : Geometry} {first second third : Content}

/-! Files that differ in their slots only -/

structure SameBesideSlots (geometry : Geometry) (first second : Content) : Prop where
  header : second.read 0 Superblock.length = first.read 0 Superblock.length
  bitmap : second.bitmap geometry = first.bitmap geometry
  next : ∀ block, geometry.IsData block →
    second.next geometry block = first.next geometry block
  payload : ∀ block, geometry.IsData block →
    second.payload geometry block = first.payload geometry block

theorem SameBesideSlots.trans (earlier : SameBesideSlots geometry first second)
    (later : SameBesideSlots geometry second third) : SameBesideSlots geometry first third where
  header := later.header.trans earlier.header
  bitmap := later.bitmap.trans earlier.bitmap
  next block isData := (later.next block isData).trans (earlier.next block isData)
  payload block isData := (later.payload block isData).trans (earlier.payload block isData)

theorem SameBesideSlots.isChain (same : SameBesideSlots geometry first second) {start : Nat}
    {blocks : List Nat} (isChain : first.IsChain geometry start blocks) :
    second.IsChain geometry start blocks where
  head := isChain.head
  isData := isChain.isData
  linked := isChain.linked.congr fun block member => same.next block (isChain.isData block member)

theorem SameBesideSlots.records (same : SameBesideSlots geometry first second) {blocks : List Nat}
    (isData : ∀ block ∈ blocks, geometry.IsData block) (size : Nat) :
    second.records geometry blocks size = first.records geometry blocks size := by
  have streams : second.stream geometry blocks = first.stream geometry blocks :=
    List.flatMap_congr fun block member => same.payload block (isData block member)
  rw [Content.records, streams]
  rfl

/-! Records in slots -/

section Write

variable {content : Content} {number : Nat} {inode : Inode} {record : Bytes}

theorem slot_write (encoded : inode.encode = .ok record) :
    (content.write (Area.first geometry (.record number)) record).slot geometry number =
      .ok { inode with name := Field.nameText (record.take Inode.nameWidth) } := by
  have length : record.length = recordLength := Inode.length_encode encoded
  have written : (content.write (Area.first geometry (.record number)) record).area geometry
      (.record number) = record := Disk.area_write_whole content length
  rw [slot, written, Inode.parse_encode encoded]

theorem slot_write_other {other : Nat} (inside : number < geometry.inodeCount)
    (inside' : other < geometry.inodeCount) (different : other ≠ number)
    (encoded : inode.encode = .ok record) :
    (content.write (Area.first geometry (.record number)) record).slot geometry other =
      content.slot geometry other := by
  have length : record.length = recordLength := Inode.length_encode encoded
  have agree := Disk.agreeBut_write (.record number) inside content (Nat.le_refl _)
    (Nat.add_le_add_left (Nat.le_of_eq length) _)
  rw [slot, agree.area (.record other) inside' (by simpa using different), slot]

end Write

/-- Stores an inode in a slot. -/
def putRecord (geometry : Geometry) (content : Content) (number : Nat) (inode : Inode) : Content :=
  content.write (Area.first geometry (.record number)) inode.record

section PutRecord

variable {content : Content} {number : Nat} {inode : Inode}

theorem slot_putRecord (fits : NameFits inode.name) :
    (content.putRecord geometry number inode).slot geometry number = .ok inode := by
  have encoded := Inode.encode_of_fits fits
  rw [putRecord, slot_write encoded, ← Inode.parse_encode encoded, Inode.parse_record fits]

variable (inside : number < geometry.inodeCount) (fits : NameFits inode.name)

include inside fits

theorem agreeBut_putRecord :
    Disk.AgreeBut geometry (.record number) content (content.putRecord geometry number inode) :=
  Disk.agreeBut_write (.record number) inside content (Nat.le_refl _)
    (Nat.add_le_add_left (Nat.le_of_eq (Inode.length_record fits)) _)

theorem slot_putRecord_of_ne {other : Nat} (inside' : other < geometry.inodeCount)
    (different : other ≠ number) :
    (content.putRecord geometry number inode).slot geometry other = content.slot geometry other :=
  slot_write_other inside inside' different (Inode.encode_of_fits fits)

theorem sameBesideSlots_putRecord :
    SameBesideSlots geometry content (content.putRecord geometry number inode) := by
  have agree := @agreeBut_putRecord geometry content number inode inside fits
  have length := Inode.length_record fits
  have minimum := geometry.minimum
  have bitmapEnd := geometry.bitmap_le
  have start : geometry.bitmapOffset = geometry.blockSize := rfl
  have recordEnd := Area.record_end_le geometry inside
  have isLength : Superblock.length = 80 := rfl
  refine ⟨?_, agree.area .bitmap trivial (by simp), fun block isData => ?_, fun block isData => ?_⟩
  · refine content.read_write_of_apart (.inl ?_)
    simp only [Area.first]
    omega
  · exact congrArg Bytes.toNat (agree.area (.link block) isData (by simp))
  · have behind := geometry.data_start_le isData
    refine content.read_write_of_apart (.inr ?_)
    rw [length]
    simp only [Area.length, recordLength] at recordEnd
    omega

end PutRecord

/-! Inodes that trade places -/

/-- The second file differs from the first in what the inodes hold: each one has the size and the
chain of its source. -/
structure Relabels (geometry : Geometry) (first second : Content) (source : Nat → Nat) : Prop where
  same : SameBesideSlots geometry first second
  parsed : ∀ number, number < geometry.inodeCount →
    (∃ inode, first.slot geometry number = .ok inode) →
      ∃ inode, second.slot geometry number = .ok inode
  involutive : ∀ number, source (source number) = number
  anchor : source InodeNumber.anchor = InodeNumber.anchor
  sourceLive : ∀ number, first.Live geometry number → first.Live geometry (source number)
  live : ∀ number, second.Live geometry number ↔ first.Live geometry number
  name : ∀ number, first.Live geometry number →
    (second.inode geometry number).name = (first.inode geometry number).name
  size : ∀ number, first.Live geometry number →
    (second.inode geometry number).size = (first.inode geometry (source number)).size
  firstBlock : ∀ number, first.Live geometry number →
    (second.inode geometry number).firstBlock = (first.inode geometry (source number)).firstBlock
  directory : ∀ number, second.Directory geometry number → first.Directory geometry (source number)
  kept : ∀ number, first.Directory geometry number →
    second.Directory geometry (source number) ∨ (first.inode geometry number).size = 0

namespace Relabels

variable {source : Nat → Nat} {chain : Nat → List Nat}

theorem entries_eq (relabels : Relabels geometry first second source)
    (chains : first.SoundChains geometry chain) {number : Nat}
    (live : first.Live geometry number) :
    second.entries geometry (chain ∘ source) number =
      first.entries geometry chain (source number) := by
  rw [entries, entries, relabels.size number live, Function.comp, relabels.same.records
    (chains.isChain _ (relabels.sourceLive number live)).isData]

theorem linksTo_iff (relabels : Relabels geometry first second source)
    (chains : first.SoundChains geometry chain) {place : Place} {number : Nat} :
    second.LinksTo geometry (chain ∘ source) place number ↔
      first.LinksTo geometry chain ⟨source place.directory, place.slot⟩ number := by
  constructor
  · rintro ⟨directory, entry⟩
    have live := (relabels.live _).mp directory.live
    rw [relabels.entries_eq chains live] at entry
    exact ⟨relabels.directory _ directory, entry⟩
  · rintro ⟨directory, entry⟩
    have live := relabels.sourceLive _ directory.live
    rw [relabels.involutive] at live
    rcases relabels.kept _ directory with kept | empty
    · rw [relabels.involutive] at kept
      rw [← relabels.entries_eq chains live] at entry
      exact ⟨kept, entry⟩
    · obtain ⟨entry, isEntry, -⟩ := entry
      dsimp only at isEntry
      rw [entries, empty] at isEntry
      cases isEntry

theorem sound (relabels : Relabels geometry first second source)
    (sound : first.SoundAlong geometry chain) : second.SoundAlong geometry (chain ∘ source) := by
  have chains := sound.chains
  have same := relabels.same
  have live {number : Nat} (live : second.Live geometry number) : first.Live geometry number :=
    (relabels.live number).mp live
  have source_live {number : Nat} (live' : second.Live geometry number) :
      first.Live geometry (source number) := relabels.sourceLive number (live live')
  obtain ⟨superblock, header⟩ := sound.header
  refine ⟨⟨superblock, ?_, header.agrees, ?_, ?_, ?_, ?_⟩, ⟨fun number inside =>
      relabels.parsed number inside (sound.slots.parsed number inside), ?_, ?_⟩,
    ⟨fun number live' => ?_, fun number live' => ?_, fun number live' block member => ?_,
      fun one other live' live'' different => ?_, ?_, fun bit usable inside marked => ?_⟩,
    ⟨fun directory isDirectory => ?_, fun directory isDirectory => ?_,
      fun directory isDirectory entry member => ?_, fun number usable live' => ?_⟩⟩
  · rw [same.header, header.parsed]
  · rw [same.bitmap, header.anchorBit]
  · rw [same.bitmap, header.freeCount]
  · exact fun number usable inside below =>
      (relabels.live number).mpr (header.cursor.below number usable inside below)
  · intro nonzero
    obtain ⟨usable, inside, vacant⟩ := header.cursor.vacant nonzero
    exact ⟨usable, inside, fun live' => vacant (live live')⟩
  · exact (relabels.live _).mpr sound.slots.root
  · exact (relabels.live _).mpr sound.slots.anchor
  · rw [relabels.firstBlock number (live live')]
    exact same.isChain (chains.isChain _ (source_live live'))
  · rw [relabels.size number (live live')]
    exact chains.length _ (source_live live')
  · rw [same.bitmap]
    exact chains.marked _ (source_live live') block member
  · refine chains.apart _ _ (source_live live') (source_live live'') fun equal => different ?_
    rw [← relabels.involutive one, equal, relabels.involutive]
  · rw [Function.comp, relabels.anchor]
    exact chains.anchor
  · rw [same.bitmap] at marked
    obtain ⟨number, live', inChain⟩ := chains.owned bit usable inside marked
    refine ⟨source number, (relabels.live _).mpr (relabels.sourceLive number live'), ?_⟩
    rwa [Function.comp, relabels.involutive]
  · rw [relabels.size directory (live isDirectory.live)]
    exact sound.directories.whole _ (relabels.directory directory isDirectory)
  · rw [relabels.entries_eq chains (live isDirectory.live)]
    exact sound.directories.distinct _ (relabels.directory directory isDirectory)
  · rw [relabels.entries_eq chains (live isDirectory.live)] at member
    obtain ⟨usable, live', name⟩ :=
      sound.directories.target _ (relabels.directory directory isDirectory) entry member
    exact ⟨usable, (relabels.live _).mpr live', (relabels.name _ live').trans name⟩
  · obtain ⟨place, linked, alone⟩ := sound.directories.linked number usable (live live')
    refine ⟨⟨source place.directory, place.slot⟩, ?_, fun other linked' => ?_⟩
    · refine (relabels.linksTo_iff chains).mpr ?_
      rwa [relabels.involutive]
    · have isPlace := alone _ ((relabels.linksTo_iff chains).mp linked')
      obtain ⟨directory, slot⟩ := other
      rw [← isPlace, relabels.involutive]

end Relabels

/-! Two directories that exchange what they hold -/

section Exchange

/-- Two directories trade their sizes and their chains. -/
def exchange (geometry : Geometry) (content : Content) (one other : Nat) : Content :=
  (content.putRecord geometry one
    ((content.inode geometry one).holding (content.inode geometry other))).putRecord geometry other
      ((content.inode geometry other).holding (content.inode geometry one))

variable {content : Content} {one other : Nat} (isDirectory : content.Directory geometry one)
  (isDirectory' : content.Directory geometry other)
  (fits : NameFits (content.inode geometry one).name)
  (fits' : NameFits (content.inode geometry other).name)

include isDirectory isDirectory' fits fits'

theorem slot_exchange {number : Nat} (inside : number < geometry.inodeCount) :
    (content.exchange geometry one other).slot geometry number =
      (content.slot geometry number).map
        (·.holding (content.inode geometry (Equiv.swap one other number))) := by
  rw [← Inode.name_holding _ (content.inode geometry other)] at fits
  rw [← Inode.name_holding _ (content.inode geometry one)] at fits'
  rw [exchange]
  by_cases isOther : number = other
  · rw [isOther, slot_putRecord fits', Equiv.swap_apply_right, slot_of_live isDirectory'.live]
    rfl
  rw [slot_putRecord_of_ne isDirectory'.live.inside fits' inside isOther]
  by_cases isOne : number = one
  · rw [isOne, slot_putRecord fits, Equiv.swap_apply_left, slot_of_live isDirectory.live]
    rfl
  rw [slot_putRecord_of_ne isDirectory.live.inside fits inside isOne,
    Equiv.swap_apply_of_ne_of_ne isOne isOther, inode]
  cases content.slot geometry number <;> rfl

theorem kind_exchange {number : Nat} (inside : number < geometry.inodeCount) :
    ((content.exchange geometry one other).inode geometry number).kind =
      (content.inode geometry number).kind := by
  rw [inode, slot_exchange isDirectory isDirectory' fits fits' inside, inode.eq_1 _ _ number]
  cases content.slot geometry number <;> rfl

theorem inode_exchange {number : Nat} (live : content.Live geometry number) :
    (content.exchange geometry one other).inode geometry number =
      (content.inode geometry number).holding
        (content.inode geometry (Equiv.swap one other number)) := by
  rw [inode, slot_exchange isDirectory isDirectory' fits fits' live.inside, slot_of_live live]
  rfl

theorem live_exchange (number : Nat) : (content.exchange geometry one other).Live geometry number ↔
    content.Live geometry number := by
  constructor <;> rintro ⟨inside, nonempty⟩ <;> refine ⟨inside, ?_⟩
  · rwa [Inode.isEmpty, kind_exchange isDirectory isDirectory' fits fits' inside] at nonempty
  · rwa [Inode.isEmpty, kind_exchange isDirectory isDirectory' fits fits' inside]

theorem directory_exchange (number : Nat) :
    (content.exchange geometry one other).Directory geometry number ↔
      content.Directory geometry number := by
  have live := live_exchange isDirectory isDirectory' fits fits' number
  constructor
  · rintro ⟨live', isDirectory''⟩
    refine ⟨live.mp live', ?_⟩
    rwa [Inode.isDirectory, kind_exchange isDirectory isDirectory' fits fits' live'.inside]
      at isDirectory''
  · rintro ⟨live', isDirectory''⟩
    refine ⟨live.mpr live', ?_⟩
    rwa [Inode.isDirectory, kind_exchange isDirectory isDirectory' fits fits' live'.inside]

theorem relabels_exchange (notAnchor : one ≠ InodeNumber.anchor)
    (notAnchor' : other ≠ InodeNumber.anchor) :
    Relabels geometry content (content.exchange geometry one other) (Equiv.swap one other) := by
  have swapped {part : Nat → Prop} (here : part one) (there : part other) {number : Nat}
      (member : part number) : part (Equiv.swap one other number) := by
    rw [Equiv.swap_apply_def]
    split
    · exact there
    · split
      · exact here
      · exact member
  have directory := directory_exchange isDirectory isDirectory' fits fits'
  have held {number : Nat} (live : content.Live geometry number) :=
    inode_exchange isDirectory isDirectory' fits fits' live
  refine ⟨?_, fun number inside => ?_, Equiv.swap_apply_self one other, ?_,
    fun number => swapped isDirectory.live isDirectory'.live,
    live_exchange isDirectory isDirectory' fits fits', fun number live => ?_,
    fun number live => ?_, fun number live => ?_, fun number isDirectory'' => ?_,
    fun number isDirectory'' => .inl ?_⟩
  · rw [← Inode.name_holding _ (content.inode geometry other)] at fits
    rw [← Inode.name_holding _ (content.inode geometry one)] at fits'
    exact (sameBesideSlots_putRecord isDirectory.live.inside fits).trans
      (sameBesideSlots_putRecord isDirectory'.live.inside fits')
  · rintro ⟨inode, parsed⟩
    rw [slot_exchange isDirectory isDirectory' fits fits' inside, parsed]
    exact ⟨_, rfl⟩
  · exact Equiv.swap_apply_of_ne_of_ne (Ne.symm notAnchor) (Ne.symm notAnchor')
  · rw [held live, Inode.name_holding]
  · rw [held live, Inode.size_holding]
  · rw [held live, Inode.firstBlock_holding]
  · exact swapped isDirectory isDirectory' ((directory number).mp isDirectory'')
  · exact (directory _).mpr (swapped isDirectory isDirectory' isDirectory'')

end Exchange

/-! A directory that becomes a file -/

section Demote

/-- The inode says that it is one of a file. -/
def demote (geometry : Geometry) (content : Content) (directory : Nat) : Content :=
  content.putRecord geometry directory (content.inode geometry directory).asFile

variable {content : Content} {directory : Nat} (isDirectory : content.Directory geometry directory)
  (fits : NameFits (content.inode geometry directory).name)

include isDirectory fits

theorem slot_demote {number : Nat} (inside : number < geometry.inodeCount) :
    (content.demote geometry directory).slot geometry number =
      if number = directory then .ok (content.inode geometry directory).asFile
      else content.slot geometry number := by
  rw [← Inode.name_asFile] at fits
  rw [demote]
  split
  · next same => rw [same, slot_putRecord fits]
  · next different => exact slot_putRecord_of_ne isDirectory.live.inside fits inside different

theorem inode_demote {number : Nat} (inside : number < geometry.inodeCount) :
    (content.demote geometry directory).inode geometry number =
      if number = directory then (content.inode geometry directory).asFile
      else content.inode geometry number := by
  rw [inode, slot_demote isDirectory fits inside]
  split <;> rfl

theorem live_demote (number : Nat) : (content.demote geometry directory).Live geometry number ↔
    content.Live geometry number := by
  constructor <;> rintro ⟨inside, nonempty⟩
  · rw [inode_demote isDirectory fits inside] at nonempty
    split at nonempty
    · next same => exact same ▸ isDirectory.live
    · exact ⟨inside, nonempty⟩
  · refine ⟨inside, ?_⟩
    rw [inode_demote isDirectory fits inside]
    split
    · rfl
    · exact nonempty

theorem directory_demote (number : Nat) :
    (content.demote geometry directory).Directory geometry number ↔
      content.Directory geometry number ∧ number ≠ directory := by
  have live := live_demote isDirectory fits number
  constructor
  · rintro ⟨live', isDirectory'⟩
    rw [inode_demote isDirectory fits live'.inside] at isDirectory'
    split at isDirectory'
    · cases isDirectory'
    · next different => exact ⟨⟨live.mp live', isDirectory'⟩, different⟩
  · rintro ⟨⟨live', isDirectory'⟩, different⟩
    refine ⟨live.mpr live', ?_⟩
    rwa [inode_demote isDirectory fits live'.inside, if_neg different]

theorem relabels_demote (empty : (content.inode geometry directory).size = 0) :
    Relabels geometry content (content.demote geometry directory) id := by
  have kept {number : Nat} (live : content.Live geometry number) :=
    inode_demote isDirectory fits live.inside
  have put : NameFits (content.inode geometry directory).asFile.name := by rwa [Inode.name_asFile]
  refine ⟨sameBesideSlots_putRecord isDirectory.live.inside put, fun number inside => ?_,
    fun _ => rfl, rfl, fun _ live => live, live_demote isDirectory fits, fun number live => ?_,
    fun number live => ?_, fun number live => ?_,
    fun number isDirectory' => ((directory_demote isDirectory fits number).mp isDirectory').1,
    fun number isDirectory' => ?_⟩
  · rintro ⟨inode, parsed⟩
    rw [slot_demote isDirectory fits inside]
    split
    · exact ⟨_, rfl⟩
    · exact ⟨inode, parsed⟩
  · rw [kept live]
    split
    · next same => rw [same, Inode.name_asFile]
    · rfl
  · rw [kept live, id]
    split
    · next same => rw [same, Inode.size_asFile]
    · rfl
  · rw [kept live, id]
    split
    · next same => rw [same, Inode.firstBlock_asFile]
    · rfl
  · by_cases same : number = directory
    · exact .inr (same ▸ empty)
    · exact .inl ((directory_demote isDirectory fits number).mpr ⟨isDirectory', same⟩)

end Demote

end Content

end ImageFs
