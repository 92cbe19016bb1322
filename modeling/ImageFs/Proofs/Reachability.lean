import ImageFs.Proofs.Exactness
import ImageFs.Proofs.PathGrammar
import ImageFs.Proofs.Paths
import ImageFs.Proofs.Trails

/-!
What a check without findings says about the tree. Main statement: every inode but the first two is
entered by exactly one entry, so at most one row of entries leads from the root to an inode; an inode
that none leads to lies behind the anchor or behind a cycle of directories; and names along entries
from the root resolve.
-/

namespace ImageFs

/-! Entries as edges -/

namespace Content

variable (content : Content) (geometry : Geometry)

theorem directory_iff {number : Nat} :
    content.Directory geometry number ↔ number < geometry.inodeCount ∧
      (content.inode geometry number).isEmpty = false ∧
      (content.inode geometry number).isDirectory = true :=
  ⟨fun directory => ⟨directory.live.inside, directory.live.nonempty, directory.isDirectory⟩,
    fun facts => ⟨⟨facts.1, facts.2.1⟩, facts.2.2⟩⟩

instance (number : Nat) : Decidable (content.Directory geometry number) :=
  decidable_of_iff' _ (content.directory_iff geometry)

/-- The inode that an entry of a directory links to. -/
def child? (directory slot : Nat) : Option Nat :=
  if content.Directory geometry directory then
    (content.listed geometry directory)[slot]?.map fun entry => entry.inode.toNat
  else none

/-- The inode that a row of entries leads to from a directory. -/
def follow (directory : Nat) (trail : List Nat) : Option Nat :=
  Trail.follow (content.child? geometry) directory trail

/-- The inode lies behind the anchor or behind a cycle of directories. -/
def Stray (number : Nat) : Prop :=
  Trail.Stray (content.child? geometry) InodeNumber.anchor number

/-- The names are stored, byte for byte, along a row of entries from a directory to an inode. -/
inductive Spells : Nat → List String → Nat → Prop
  | here (number : Nat) : Spells number [] number
  | into {directory slot number : Nat} {record : Bytes} {name : String} {names : List String}
      {listing : Listing} (isDirectory : content.Directory geometry directory)
      (found : content.listing? geometry (content.inode geometry directory) = some listing)
      (isRecord : listing.records[slot]? = some record)
      (named : DirEntry.hasName record name = true)
      (rest : Spells (DirEntry.ofRecord record).inode.toNat names number) :
      Spells directory (name :: names) number

end Content

/-! Resolving -/

theorem DirEntry.name_of_hasName {record : Bytes} {name : String}
    (named : hasName record name = true) : (ofRecord record).name = name := by
  rw [hasName, Bool.and_eq_true, beq_iff_eq] at named
  rw [ofRecord, Field.nameText, named.2, Text.ofBytes_bytesOf]

/-- Where the names are distinct a stored name is found in its own slot. -/
theorem Listing.find?_of_hasName {listing : Listing} {slot : Nat} {record : Bytes} {name : String}
    (distinct : (listing.records.map fun record => (DirEntry.ofRecord record).name).Nodup)
    (isRecord : listing.records[slot]? = some record)
    (named : DirEntry.hasName record name = true) : listing.find? name = some slot := by
  cases found : listing.find? name with
  | none =>
      have missing := List.findIdx?_eq_none_iff.mp found record (List.mem_of_getElem? isRecord)
      rw [named] at missing
      cases missing
  | some first =>
      obtain ⟨inside, named', -⟩ := List.findIdx?_eq_some_iff_getElem.mp found
      refine congrArg some ((List.getElem?_inj (by rwa [List.length_map]) distinct).mp ?_)
      rw [List.getElem?_map, List.getElem?_map, isRecord, List.getElem?_eq_getElem inside,
        Option.map_some, Option.map_some, DirEntry.name_of_hasName named',
        DirEntry.name_of_hasName named]

namespace Volume

variable {volume : Volume} {backing : Backing} {chain : Nat → List Nat}

/-- The queries for inodes and directories are answered. -/
structure Readable (volume : Volume) (backing : Backing) : Prop where
  inode : ∀ number, number < volume.geometry.inodeCount →
    volume.getInode number backing = .ok (backing.content.inode volume.geometry number)
  listing : ∀ directory, backing.content.Directory volume.geometry directory →
    ∃ listing, volume.readListing (backing.content.inode volume.geometry directory) backing =
        .ok listing ∧
      backing.content.listing? volume.geometry
        (backing.content.inode volume.geometry directory) = some listing

theorem Readable.of_check {overflow : Check.Overflow} {report : CheckReport}
    (sound : backing.content.SoundAlong volume.geometry chain)
    (ends : volume.checkUnlocked overflow backing = .ok report) : volume.Readable backing := by
  obtain ⟨outcome, found, ends⟩ := Query.exists_of_bind_ok ends
  obtain ⟨superblock', header⟩ := sound.header
  have verdict := (volume.readSuperblock_judges backing).damageOr found
  rw [header.parsed] at verdict
  cases outcome with
  | error damage => cases verdict
  | ok superblock =>
      obtain ⟨inodes, directories⟩ := checkBehind_reads ends
      have readInode {number : Nat} (inside : number < volume.geometry.inodeCount) :
          volume.getInode number backing = .ok (backing.content.inode volume.geometry number) := by
        obtain ⟨inode, parsed⟩ := sound.slots.parsed number inside
        obtain ⟨outcome, found⟩ := inodes number inside
        have verdict := (volume.getInode_judges backing inside).damageOr found
        rw [parsed] at verdict
        cases outcome with
        | error damage => cases verdict
        | ok inode' =>
            rw [Query.of_damageOr_ok found, Content.inode, parsed]
            exact congrArg _ (Option.some.inj verdict).symm
      refine ⟨fun number inside => readInode inside, fun directory isDirectory => ?_⟩
      obtain ⟨outcome, found⟩ := directories directory isDirectory
      have verdict := (volume.list_judges backing isDirectory).damageOr found
      have readable := sound.isSome_listing? isDirectory
      cases outcome with
      | error damage =>
          rw [Option.map_eq_none_iff.mp verdict] at readable
          cases readable
      | ok entries =>
          have listed := Query.of_damageOr_ok found
          rw [list, Query.bind_ok (readInode isDirectory.live.inside),
            isDirectory.isDirectory] at listed
          obtain ⟨listing, read, -⟩ := Query.exists_of_bind_ok listed
          exact ⟨listing, read, (volume.readListing_judges backing _).value read⟩

theorem walk_of_spells (sound : backing.content.SoundAlong volume.geometry chain)
    (readable : volume.Readable backing) (path : String) {directory number : Nat}
    {names : List String}
    (spells : backing.content.Spells volume.geometry directory names number) :
    volume.walk path names (backing.content.inode volume.geometry directory) directory backing =
      .ok (backing.content.inode volume.geometry number, number) := by
  induction spells with
  | here number => rfl
  | @into directory slot number record name names listing isDirectory found isRecord named rest
      induction =>
      obtain ⟨listing', read, found'⟩ := readable.listing directory isDirectory
      obtain rfl : listing = listing' := Option.some.inj (found.symm.trans found')
      have isListed : backing.content.listed volume.geometry directory =
          listing.records.map DirEntry.ofRecord := by
        rw [Content.listed, found]
        rfl
      have same := sound.listed_eq_entries isDirectory
      have distinct := sound.directories.distinct directory isDirectory
      rw [← same, isListed, List.map_map] at distinct
      have member : DirEntry.ofRecord record ∈
          backing.content.entries volume.geometry chain directory := by
        rw [← same, isListed]
        exact List.mem_map_of_mem (List.mem_of_getElem? isRecord)
      obtain ⟨usable, live, -⟩ := sound.directories.target directory isDirectory _ member
      let child := (DirEntry.ofRecord record).inode.toNat
      have decoded : (liftM (listing.decode slot) : Query DirEntry) backing =
          .ok (DirEntry.ofRecord record) := by
        rw [Listing.decode_of_record isRecord
          (Content.length_of_mem_listing found (List.mem_of_getElem? isRecord))]
        rfl
      have looked : volume.lookup (backing.content.inode volume.geometry directory) name backing =
          .ok (some child) := by
        rw [lookup, Query.bind_ok read, Listing.find?_of_hasName distinct isRecord named]
        dsimp only
        rw [Query.bind_ok decoded]
        rfl
      have notAnchor : child ≠ InodeNumber.anchor := by
        have anchor : InodeNumber.anchor < InodeNumber.firstFree := by decide
        omega
      rw [walk, isDirectory.isDirectory]
      refine (Query.bind_ok looked).trans ?_
      dsimp only
      rw [if_neg notAnchor]
      refine (Query.bind_ok (readable.inode child live.inside)).trans ?_
      rw [live.nonempty]
      exact induction

/-- What the entries of the directories form on a file. -/
structure Branches (volume : Volume) (backing : Backing) : Prop where
  root : backing.content.Live volume.geometry InodeNumber.root
  anchor : backing.content.Live volume.geometry InodeNumber.anchor
  usable : ∀ directory slot number,
    backing.content.child? volume.geometry directory slot = some number →
      InodeNumber.firstFree ≤ number ∧ backing.content.Live volume.geometry number
  entered : ∀ number, InodeNumber.firstFree ≤ number →
    backing.content.Live volume.geometry number → ∃! place : Content.Place,
      backing.content.child? volume.geometry place.directory place.slot = some number
  unique : ∀ trail trail' number,
    backing.content.follow volume.geometry InodeNumber.root trail = some number →
      backing.content.follow volume.geometry InodeNumber.root trail' = some number → trail = trail'
  reached_iff : ∀ number, backing.content.Live volume.geometry number →
    ((∃ trail, backing.content.follow volume.geometry InodeNumber.root trail = some number) ↔
      ¬ backing.content.Stray volume.geometry number)
  resolves : ∀ names number,
    backing.content.Spells volume.geometry InodeNumber.root names number →
      (∀ name ∈ names, Path.IsComponent name) →
        (∃ path, Path.components path = .ok names) ∧
          ∀ path, Path.components path = .ok names →
            volume.resolve path backing =
              .ok (backing.content.inode volume.geometry number, number)

theorem child?_eq_some_iff (sound : backing.content.SoundAlong volume.geometry chain)
    {directory slot number : Nat} :
    backing.content.child? volume.geometry directory slot = some number ↔
      backing.content.LinksTo volume.geometry chain ⟨directory, slot⟩ number := by
  rw [Content.child?]
  constructor
  · intro linked
    split at linked
    · next isDirectory =>
      obtain ⟨entry, isEntry, isTarget⟩ := Option.map_eq_some_iff.mp linked
      rw [sound.listed_eq_entries isDirectory] at isEntry
      exact ⟨isDirectory, entry, isEntry, isTarget⟩
    · cases linked
  · rintro ⟨isDirectory, entry, isEntry, isTarget⟩
    rw [if_pos isDirectory, sound.listed_eq_entries isDirectory]
    exact Option.map_eq_some_iff.mpr ⟨entry, isEntry, isTarget⟩

theorem branches_of_sound (sound : backing.content.SoundAlong volume.geometry chain)
    (readable : volume.Readable backing) : volume.Branches backing := by
  have usable {directory slot number : Nat}
      (linked : backing.content.child? volume.geometry directory slot = some number) :
      InodeNumber.firstFree ≤ number ∧ backing.content.Live volume.geometry number := by
    obtain ⟨isDirectory, entry, isEntry, rfl⟩ := (child?_eq_some_iff sound).mp linked
    obtain ⟨usable, live, -⟩ :=
      sound.directories.target directory isDirectory entry (List.mem_of_getElem? isEntry)
    exact ⟨usable, live⟩
  have entered {number : Nat} (free : InodeNumber.firstFree ≤ number)
      (live : backing.content.Live volume.geometry number) : ∃! place : Content.Place,
        backing.content.child? volume.geometry place.directory place.slot = some number :=
    (existsUnique_congr fun place => child?_eq_some_iff sound).mpr
      (sound.directories.linked number free live)
  have once : Trail.EntersOnce (backing.content.child? volume.geometry) := by
    intro first second slot slot' number linked linked'
    obtain ⟨free, live⟩ := usable linked
    have same : (⟨first, slot⟩ : Content.Place) = ⟨second, slot'⟩ :=
      (entered free live).unique linked linked'
    exact ⟨congrArg Content.Place.directory same, congrArg Content.Place.slot same⟩
  have unentered (reserved : Nat) (small : reserved < InodeNumber.firstFree) :
      ∀ directory slot,
        backing.content.child? volume.geometry directory slot ≠ some reserved :=
    fun directory slot linked => Nat.not_le.mpr small (usable linked).1
  have rootUnentered := unentered InodeNumber.root (by decide)
  have anchorUnentered := unentered InodeNumber.anchor (by decide)
  refine ⟨sound.slots.root, sound.slots.anchor, fun _ _ _ => usable, fun _ => entered,
    fun trail trail' number leads leads' => Trail.follow_inj once rootUnentered leads leads',
    fun number live => ⟨?_, fun notStray => ?_⟩, fun names number spells areComponents => ?_⟩
  · rintro ⟨trail, leads⟩
    exact Trail.not_stray_of_follow once (by decide) rootUnentered anchorUnentered leads
  · have found := @Trail.reached_or_stray (backing.content.child? volume.geometry)
      (backing.content.Live volume.geometry) _ InodeNumber.root InodeNumber.anchor
      (fun node live => live.inside)
      (fun node live notRoot notAnchor => by
        have free : InodeNumber.firstFree ≤ node := by
          simp only [InodeNumber.root, InodeNumber.anchor, InodeNumber.firstFree] at *
          omega
        obtain ⟨⟨directory, slot⟩, linked, -⟩ := entered free live
        obtain ⟨isDirectory, -⟩ := (child?_eq_some_iff sound).mp linked
        exact ⟨directory, slot, isDirectory.live, linked⟩) number live
    exact found.resolve_right notStray
  · refine ⟨Path.exists_components areComponents, fun path components => ?_⟩
    have named : (liftM (Path.components path) : Query (List String)) backing = .ok names := by
      rw [components]
      rfl
    rw [resolve, Query.bind_ok named, walkFromRoot,
      Query.bind_ok (readable.inode _ sound.slots.root.inside)]
    exact walk_of_spells sound readable path spells

end Volume

end ImageFs
