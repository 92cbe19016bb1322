import Mathlib.Data.Finset.Card
import Mathlib.Data.List.Pairwise
import ImageFs.Proofs.Findings

/-!
The check is sound and complete. Main statement: whenever the check of a file reports, it has no
findings exactly when the metadata is sound, and no count of links that has wrapped hides damage as long
as there are fewer inodes than a counter can tell.
-/

namespace ImageFs

/-! Counting links -/

open Content (Place)

theorem length_filter_getElem? {α : Type} [DecidableEq α] (list : List α) (item : α) :
    ((List.range list.length).filter fun index => list[index]? == some item).length =
      list.count item := by
  induction list with
  | nil => rfl
  | cons head rest induction =>
      rw [List.length_cons, List.range_succ_eq_map, List.filter_cons, List.filter_map,
        List.count_cons, ← induction]
      simp only [List.getElem?_cons_zero, Function.comp_def, List.getElem?_cons_succ]
      by_cases same : head = item <;> simp [same]

/-- A number that several lists have once together is in one place. -/
theorem count_flatMap_eq_one_iff {directories : List Nat} (nodup : directories.Nodup)
    (links : Nat → List Nat) (number : Nat) :
    (directories.flatMap links).count number = 1 ↔
      ∃! place : Place, place.directory ∈ directories ∧
        (links place.directory)[place.slot]? = some number := by
  let places := directories.flatMap fun directory =>
    ((List.range (links directory).length).filter fun slot =>
      (links directory)[slot]? == some number).map (Place.mk directory)
  have member (place : Place) : place ∈ places ↔ place.directory ∈ directories ∧
      (links place.directory)[place.slot]? = some number := by
    simp only [places, List.mem_flatMap, List.mem_map, List.mem_filter, List.mem_range, beq_iff_eq]
    constructor
    · rintro ⟨directory, inside, slot, ⟨-, linked⟩, rfl⟩
      exact ⟨inside, linked⟩
    · rintro ⟨inside, linked⟩
      exact ⟨_, inside, _, ⟨(List.getElem?_eq_some_iff.mp linked).1, linked⟩, rfl⟩
  have distinct : places.Nodup := by
    refine List.nodup_flatMap.mpr ⟨fun directory _ => ?_, nodup.imp fun different => ?_⟩
    · exact (List.nodup_range.filter _).map fun _ _ same => congrArg Place.slot same
    · intro place inFirst inSecond
      obtain ⟨_, -, rfl⟩ := List.mem_map.mp inFirst
      obtain ⟨_, -, same⟩ := List.mem_map.mp inSecond
      exact different (congrArg Place.directory same).symm
  have counted : (directories.flatMap links).count number = places.toFinset.card := by
    rw [List.toFinset_card_of_nodup distinct, List.count_flatMap, List.length_flatMap]
    refine congrArg List.sum (List.map_congr_left fun directory _ => ?_)
    rw [List.length_map]
    exact (length_filter_getElem? _ _).symm
  rw [counted, Finset.card_eq_one, Finset.singleton_iff_unique_mem]
  simp only [List.mem_toFinset, member]

theorem count_flatMap_le {directories : List Nat} {links : Nat → List Nat} {number : Nat}
    (each : ∀ directory ∈ directories, (links directory).count number ≤ 1) :
    (directories.flatMap links).count number ≤ directories.length := by
  induction directories with
  | nil => exact Nat.le_refl _
  | cons directory rest induction =>
      have here := each directory List.mem_cons_self
      have others := induction fun other member => each other (List.mem_cons_of_mem _ member)
      rw [List.flatMap_cons, List.count_append, List.length_cons]
      omega

/-! The check as a whole -/

namespace Check

variable (content : Content) (geometry : Geometry) (superblock : Superblock)
  (chain : Nat → List Nat)

def allOwners : Owners :=
  ownersAfter chain (content.liveNumbers geometry 0 geometry.inodeCount) []

def allLinks : List Nat :=
  (content.directories geometry).flatMap fun directory =>
    (content.listed geometry directory).map fun entry => entry.inode.toNat

/-- No part of the check has a finding, the inodes having the chains given. -/
structure Clean : Prop where
  agrees : superblock.agree geometry = .ok ()
  anchorBit : Bitmap.get (content.bitmap geometry) 0 = true
  freeCount : superblock.freeBlocks.toNat =
    (List.range geometry.blocks).countP fun bit => !Bitmap.get (content.bitmap geometry) bit
  slots : ∀ number ∈ List.range' 0 geometry.inodeCount, GoodSlot content geometry number
  cursor : content.CursorAtLowest geometry superblock.nextFreeInode.toNat
  chains : ∀ node ∈ content.liveInodes geometry, GoodChain content geometry (chain node.1) node.2
  apart : (content.liveInodes geometry).Pairwise fun first second =>
    ∀ block ∈ chain first.1, block ∉ chain second.1
  anchor : (allOwners content geometry chain).lookup geometry.anchorBlock = some InodeNumber.anchor
  owned : ∀ bit, FirstFit.firstUsable ≤ bit → bit < geometry.blocks →
    Bitmap.get (content.bitmap geometry) bit = true →
      ((allOwners content geometry chain).lookup (geometry.blockOfBit bit)).isSome
  directories : ∀ directory, content.Directory geometry directory →
    GoodDirectory content geometry directory
  linked : ∀ number, InodeNumber.firstFree ≤ number → content.Live geometry number →
    (allLinks content geometry).count number = 1

variable {content geometry superblock chain}

theorem Clean.soundChains (clean : Clean content geometry superblock chain) :
    content.SoundChains geometry chain where
  isChain number live := (clean.chains _ (Content.mem_liveInodes.mpr ⟨live, rfl⟩)).isChain
  length number live := (clean.chains _ (Content.mem_liveInodes.mpr ⟨live, rfl⟩)).length
  marked number live := (clean.chains _ (Content.mem_liveInodes.mpr ⟨live, rfl⟩)).marked
  apart first second live live' different := by
    have symmetric : Std.Symm fun first second : Nat × Inode =>
        ∀ block ∈ chain first.1, block ∉ chain second.1 :=
      ⟨fun _ _ apart block inSecond inFirst => apart block inFirst inSecond⟩
    exact clean.apart.forall (Content.mem_liveInodes.mpr ⟨live, rfl⟩)
      (Content.mem_liveInodes.mpr ⟨live', rfl⟩) fun same => different (congrArg Prod.fst same)
  anchor := (exists_of_lookup_ownersAfter clean.anchor).2
  owned bit usable inside marked := by
    obtain ⟨number, member, inChain⟩ :=
      isSome_lookup_ownersAfter.mp (clean.owned bit usable inside marked)
    exact ⟨number, Content.mem_liveNumbers.mp member, inChain⟩

/-- An inode is linked at most once from a directory without findings, since the names are distinct and
every entry has the name of its inode. -/
theorem GoodDirectory.nodup_linksIn {directory : Nat} (good : GoodDirectory content geometry directory) :
    (content.linksIn geometry directory).Nodup := by
  have names : (content.listed geometry directory).map DirEntry.name =
      ((content.listed geometry directory).map fun entry => entry.inode.toNat).map
        fun number => (content.inode geometry number).name := by
    rw [List.map_map]
    exact List.map_congr_left fun entry member => (good.entries entry member).name.symm
  have distinct := good.distinct
  rw [names] at distinct
  exact distinct.of_map.sublist (List.filter_sublist.map _)

section Good

variable (good : ∀ directory, content.Directory geometry directory →
  GoodDirectory content geometry directory)

include good

/-- Without findings on the directories no inode is linked more often than there are inodes. -/
theorem linkCount_le (number : Nat) : content.linkCount geometry number ≤ geometry.inodeCount := by
  have few : (content.directories geometry).length ≤ geometry.inodeCount := by
    have nodup := @Content.nodup_directories content geometry
    have inside : content.directories geometry ⊆ List.range geometry.inodeCount := fun directory member =>
      List.mem_range.mpr (Content.mem_directories.mp member).live.inside
    simpa using (nodup.subperm inside).length_le
  exact Nat.le_trans (count_flatMap_le fun directory member => List.nodup_iff_count_le_one.mp
    (good directory (Content.mem_directories.mp member)).nodup_linksIn number) few

theorem linkCount_eq (number : Nat) :
    content.linkCount geometry number = (allLinks content geometry).count number := by
  refine congrArg (List.count number) ?_
  change (content.directories geometry).flatMap (content.linksIn geometry) = _
  refine List.flatMap_congr fun directory member => ?_
  have all := (good directory (Content.mem_directories.mp member)).entries
  rw [Content.linksIn, List.filter_eq_self.mpr fun entry inside => decide_eq_true (all entry inside)]

/-- Where the directories are without findings the counters of links are right. -/
theorem toNat_linkCount {overflow : Overflow}
    (room : Room overflow [] (content.linksAmong geometry (content.liveInodes geometry)))
    (bounded : overflow = .wraps → geometry.inodeCount < Limit.word32) (number : Nat) :
    (linkCount (addLinks [] (content.linksAmong geometry (content.liveInodes geometry)))
      number).toNat = (allLinks content geometry).count number := by
  have exact : content.linkCount geometry number < Limit.word32 := by
    cases overflow with
    | breaks =>
        have short := room rfl number
        rwa [show (linkCount [] number).toNat = 0 from rfl, Nat.zero_add] at short
    | wraps => exact Nat.lt_of_le_of_lt (linkCount_le good number) (bounded rfl)
  rw [toNat_linkCount_nil, ← linkCount_eq good]
  exact Nat.mod_eq_of_lt exact

end Good

theorem linksTo_iff
    (same : ∀ directory, content.Directory geometry directory →
      content.listed geometry directory = content.entries geometry chain directory)
    {place : Place} {number : Nat} :
    content.LinksTo geometry chain place number ↔
      place.directory ∈ content.directories geometry ∧
        ((content.listed geometry place.directory).map
          fun entry => entry.inode.toNat)[place.slot]? = some number := by
  rw [Content.mem_directories, List.getElem?_map, Option.map_eq_some_iff]
  constructor
  · rintro ⟨directory, entry⟩
    exact ⟨directory, same _ directory ▸ entry⟩
  · rintro ⟨directory, entry⟩
    exact ⟨directory, same _ directory ▸ entry⟩

theorem count_allLinks_eq_one_iff
    (same : ∀ directory, content.Directory geometry directory →
      content.listed geometry directory = content.entries geometry chain directory)
    {number : Nat} :
    (allLinks content geometry).count number = 1 ↔
      ∃! place, content.LinksTo geometry chain place number := by
  rw [allLinks, count_flatMap_eq_one_iff Content.nodup_directories]
  exact existsUnique_congr fun place => (linksTo_iff same).symm

theorem Clean.soundDirectories (clean : Clean content geometry superblock chain)
    (chains : content.SoundChains geometry chain) :
    content.SoundDirectories geometry chain := by
  have whole : ∀ directory, content.Directory geometry directory →
      (content.inode geometry directory).size.toNat % recordLength = 0 := by
    intro directory isDirectory
    obtain ⟨listing, found⟩ :=
      Option.isSome_iff_exists.mp (clean.directories directory isDirectory).readable
    exact (Content.listing?_eq_some.mp found).1
  have same : ∀ directory, content.Directory geometry directory →
      content.listed geometry directory = content.entries geometry chain directory :=
    fun directory isDirectory => (Content.listing?_of_isChain
      (chains.isChain directory isDirectory.live) (whole directory isDirectory)
      (chains.length directory isDirectory.live)).2
  refine ⟨whole, fun directory isDirectory => ?_, fun directory isDirectory entry member => ?_,
    fun number usable live => ?_⟩
  · exact same directory isDirectory ▸ (clean.directories directory isDirectory).distinct
  · have good := (clean.directories directory isDirectory).entries entry
      (same directory isDirectory ▸ member)
    exact ⟨good.usable, good.live, good.name⟩
  · exact (count_allLinks_eq_one_iff same).mp (clean.linked number usable live)

/-- Metadata without findings is sound. -/
theorem Clean.sound (clean : Clean content geometry superblock chain)
    (parsed : Superblock.parse (content.read 0 Superblock.length) = .ok superblock) :
    content.SoundAlong geometry chain := by
  have table := geometry.four_le_inodeCount
  have good {number : Nat} (inside : number < geometry.inodeCount) :
      GoodSlot content geometry number :=
    clean.slots number (List.mem_range'_1.mpr ⟨Nat.zero_le _, by omega⟩)
  have reserved {number : Nat} (small : InodeNumber.isReserved number = true)
      (inside : number < geometry.inodeCount) : content.Live geometry number :=
    ⟨inside, (good inside).reserved small⟩
  have anchorLive : content.Live geometry InodeNumber.anchor :=
    reserved rfl (Nat.lt_of_lt_of_le (by decide) table)
  have chains := clean.soundChains
  exact {
    header := ⟨superblock, parsed, clean.agrees, clean.anchorBit, clean.freeCount, clean.cursor⟩
    slots := ⟨fun number inside => (good inside).parsed,
      reserved rfl (Nat.lt_of_lt_of_le (by decide) table), anchorLive⟩
    chains
    directories := clean.soundDirectories chains }

/-- Sound metadata has no findings. -/
theorem Clean.of_sound (sound : content.SoundAlong geometry chain)
    (parsed : Superblock.parse (content.read 0 Superblock.length) = .ok superblock) :
    Clean content geometry superblock chain := by
  obtain ⟨superblock', header⟩ := sound.header
  obtain rfl : superblock' = superblock :=
    Except.ok.inj (header.parsed.symm.trans parsed)
  have chains := sound.chains
  have owner {number block : Nat} (live : content.Live geometry number)
      (inChain : block ∈ chain number) :
      (allOwners content geometry chain).lookup block = some number := by
    have found := isSome_lookup_ownersAfter.mpr ⟨number, Content.mem_liveNumbers.mpr live, inChain⟩
    obtain ⟨number', isOwner⟩ := Option.isSome_iff_exists.mp found
    obtain ⟨member, inChain'⟩ := exists_of_lookup_ownersAfter isOwner
    rw [allOwners, isOwner]
    by_contra different
    exact chains.apart number number' live (Content.mem_liveNumbers.mp member)
      (fun same => different (congrArg some same.symm)) block inChain inChain'
  refine ⟨header.agrees, header.anchorBit, header.freeCount, ?_, header.cursor, ?_, ?_,
    owner sound.slots.anchor chains.anchor, ?_, ?_, ?_⟩
  · intro number member
    refine ⟨sound.slots.parsed number (by simpa using member), fun reserved => ?_⟩
    have small : number < 2 := of_decide_eq_true reserved
    have cases : number = InodeNumber.root ∨ number = InodeNumber.anchor := by
      simp only [InodeNumber.root, InodeNumber.anchor]
      omega
    rcases cases with rfl | rfl
    · exact sound.slots.root.nonempty
    · exact sound.slots.anchor.nonempty
  · rintro ⟨number, inode⟩ member
    obtain ⟨live, rfl⟩ := Content.mem_liveInodes.mp member
    exact ⟨chains.isChain number live, chains.length number live, chains.marked number live⟩
  · have nodup := @Content.nodup_liveNumbers content geometry 0 geometry.inodeCount
    rw [Content.liveInodes, Content.liveFrom, List.pairwise_map]
    refine List.Pairwise.imp_of_mem ?_ nodup
    intro first second inFirst inSecond different
    exact chains.apart first second (Content.mem_liveNumbers.mp inFirst)
      (Content.mem_liveNumbers.mp inSecond) different
  · intro bit usable inside marked
    obtain ⟨number, live, inChain⟩ := chains.owned bit usable inside marked
    rw [owner live inChain]
    rfl
  · intro directory isDirectory
    refine ⟨sound.isSome_listing? isDirectory, fun entry member => ?_, ?_⟩
    · rw [sound.listed_eq_entries isDirectory] at member
      obtain ⟨usable, live, name⟩ := sound.directories.target directory isDirectory entry member
      exact ⟨usable, live, name⟩
    · rw [sound.listed_eq_entries isDirectory]
      exact sound.directories.distinct directory isDirectory
  · intro number usable live
    exact (count_allLinks_eq_one_iff fun directory => sound.listed_eq_entries).mpr
      (sound.directories.linked number usable live)

end Check

/-- In sound metadata no inode is linked twice. -/
theorem Content.Sound.linkCount_le_one {content : Content} {geometry : Geometry}
    (sound : content.Sound geometry) (number : Nat) : content.linkCount geometry number ≤ 1 := by
  obtain ⟨chain, sound⟩ := sound
  obtain ⟨superblock, header⟩ := sound.header
  have clean := Check.Clean.of_sound sound header.parsed
  rw [Check.linkCount_eq clean.directories]
  by_cases linked : number ∈ Check.allLinks content geometry
  · obtain ⟨directory, isDirectory, inside⟩ := List.mem_flatMap.mp linked
    obtain ⟨entry, member, rfl⟩ := List.mem_map.mp inside
    have good := (clean.directories directory (Content.mem_directories.mp isDirectory)).entries
      entry member
    exact Nat.le_of_eq (clean.linked _ good.usable good.live)
  · rw [List.count_eq_zero_of_not_mem linked]
    exact Nat.zero_le 1

namespace Volume

variable {volume : Volume} {backing : Backing} {report : CheckReport} {overflow : Check.Overflow}

theorem countClear_bitmap (content : Content) (geometry : Geometry) :
    Bitmap.countClear (content.bitmap geometry) geometry.blocks =
      (List.range geometry.blocks).countP fun bit => !Bitmap.get (content.bitmap geometry) bit := by
  refine Bitmap.countClear_eq ?_
  have covered := le_ceilDiv_mul (show 0 < 8 by decide) geometry.blocks
  rw [Content.bitmap, Disk.length_area]
  change geometry.blocks ≤ 8 * geometry.bitmapLength
  rwa [Nat.mul_comm]

theorem checkBehind_clean_iff {superblock : Superblock} {chain : Nat → List Nat}
    (bounded : overflow = .wraps → volume.geometry.inodeCount < Limit.word32)
    (isChain : ∀ number, backing.content.Live volume.geometry number → chain number =
      (backing.content.chain? volume.geometry
        (backing.content.inode volume.geometry number).firstBlock.toNat).getD [])
    (ends : volume.checkBehind overflow superblock backing = .ok report) :
    report.findings = [] ↔
      Check.Clean backing.content volume.geometry superblock chain := by
  obtain ⟨bitmap, read, ends⟩ := Query.exists_of_bind_ok ends
  obtain rfl : backing.content.bitmap volume.geometry = bitmap :=
    Option.some.inj ((volume.device.read_judges _ _ backing).value read)
  obtain ⟨⟨inodes, slots⟩, scanned, ends⟩ := Query.exists_of_bind_ok ends
  obtain ⟨isInodes, slotsClean, -⟩ := Check.scanFrom_ok (by omega) scanned
  obtain rfl : inodes = backing.content.liveInodes volume.geometry := isInodes
  obtain ⟨⟨owners, chains⟩, walked, ends⟩ := Query.exists_of_bind_ok ends
  obtain ⟨isOwners, chainsClean⟩ := @Check.checkChains_ok volume backing chain _ _ _ _
    (fun number inode member => by
      obtain ⟨live, rfl⟩ := Content.mem_liveInodes.mp member
      exact isChain number live) walked
  rw [Content.map_fst_liveInodes] at isOwners
  obtain rfl : owners = Check.allOwners backing.content volume.geometry chain := isOwners
  obtain ⟨⟨links, directories⟩, listed, ends⟩ := Query.exists_of_bind_ok ends
  obtain ⟨directoriesClean, rfl, room, -⟩ := Check.checkDirectories_ok
    (fun node member => Content.mem_liveInodes.mp member) listed
  cases ends
  have anchorBit : (if Bitmap.get (backing.content.bitmap volume.geometry) 0 then []
      else [Finding.anchorBitClear]) = [] ↔
        Bitmap.get (backing.content.bitmap volume.geometry) 0 = true := by simp
  have anchor : Check.checkAnchor volume.geometry
      (Check.allOwners backing.content volume.geometry chain) = [] ↔
        (Check.allOwners backing.content volume.geometry chain).lookup
          volume.geometry.anchorBlock = some InodeNumber.anchor := by
    simp [Check.checkAnchor]
  have byNumber : (∀ node ∈ backing.content.liveInodes volume.geometry,
      node.2.isDirectory = true → Check.GoodDirectory backing.content volume.geometry node.1) ↔
        ∀ directory, backing.content.Directory volume.geometry directory →
          Check.GoodDirectory backing.content volume.geometry directory := by
    constructor
    · intro good directory isDirectory
      have member : (directory, backing.content.inode volume.geometry directory) ∈
          backing.content.liveInodes volume.geometry :=
        Content.mem_liveInodes.mpr ⟨isDirectory.live, rfl⟩
      exact good (directory, _) member isDirectory.isDirectory
    · rintro good ⟨number, inode⟩ member isDirectory
      obtain ⟨live, rfl⟩ := Content.mem_liveInodes.mp member
      exact good number ⟨live, isDirectory⟩
  have freeCount : ∀ clear, (if superblock.freeBlocks.toNat = clear then []
      else [Finding.freeCount superblock.freeBlocks.toNat clear]) = [] ↔
        superblock.freeBlocks.toNat = clear := by simp
  simp only [List.append_eq_nil_iff, anchorBit, freeCount, anchor, slotsClean, chainsClean,
    directoriesClean, byNumber, Check.checkCursor_nil_iff, Check.unreachable_nil_iff,
    Check.checkLinks_nil_iff, countClear_bitmap]
  constructor
  · rintro ⟨⟨⟨⟨⟨⟨⟨⟨⟨agrees, bit⟩, free⟩, slots⟩, cursor⟩, goods, -, apart⟩, anchor⟩, owned⟩, directories⟩,
      linked⟩
    have agrees' : superblock.agree volume.geometry = .ok () := by
      cases outcome : superblock.agree volume.geometry with
      | ok _ => rfl
      | error error =>
          rw [outcome] at agrees
          cases agrees
    refine ⟨agrees', bit, free, slots, cursor, goods, apart, anchor, owned, directories,
      fun number usable live => ?_⟩
    rw [← Check.toNat_linkCount directories room bounded]
    exact linked number usable live
  · intro clean
    refine ⟨⟨⟨⟨⟨⟨⟨⟨⟨by rw [clean.agrees], clean.anchorBit⟩, clean.freeCount⟩, clean.slots⟩,
      clean.cursor⟩, clean.chains, fun _ _ _ _ => rfl, clean.apart⟩, clean.anchor⟩, clean.owned⟩,
      clean.directories⟩, fun number usable live => ?_⟩
    rw [Check.toNat_linkCount clean.directories room bounded]
    exact clean.linked number usable live

/-- A check that ends has read every inode and every directory, or has met damage there. -/
theorem checkBehind_reads {superblock : Superblock}
    (ends : volume.checkBehind overflow superblock backing = .ok report) :
    (∀ number, number < volume.geometry.inodeCount →
      ∃ outcome, (volume.getInode number).damageOr backing = .ok outcome) ∧
    ∀ directory, backing.content.Directory volume.geometry directory →
      ∃ outcome, (volume.list directory).damageOr backing = .ok outcome := by
  obtain ⟨bitmap, read, ends⟩ := Query.exists_of_bind_ok ends
  obtain rfl : backing.content.bitmap volume.geometry = bitmap :=
    Option.some.inj ((volume.device.read_judges _ _ backing).value read)
  obtain ⟨⟨inodes, slots⟩, scanned, ends⟩ := Query.exists_of_bind_ok ends
  obtain ⟨isInodes, -, readsInodes⟩ := Check.scanFrom_ok (by omega) scanned
  obtain rfl : inodes = backing.content.liveInodes volume.geometry := isInodes
  obtain ⟨walk, -, ends⟩ := Query.exists_of_bind_ok ends
  obtain ⟨⟨links, directories⟩, listed, -⟩ := Query.exists_of_bind_ok ends
  obtain ⟨-, -, -, readsDirectories⟩ := Check.checkDirectories_ok
    (fun node member => Content.mem_liveInodes.mp member) listed
  refine ⟨fun number inside => readsInodes number ?_, fun directory isDirectory => ?_⟩
  · exact List.mem_range'_1.mpr ⟨Nat.zero_le _, by omega⟩
  · have member : (directory, backing.content.inode volume.geometry directory) ∈
        backing.content.liveInodes volume.geometry :=
      Content.mem_liveInodes.mpr ⟨isDirectory.live, rfl⟩
    exact readsDirectories (directory, _) member isDirectory.isDirectory

theorem readSuperblock_judges (volume : Volume) (backing : Backing) :
    Judges volume.readSuperblock backing
      (Superblock.parse (backing.content.read 0 Superblock.length)).toOption := by
  refine (volume.device.read_judges _ _ backing).bind_some ?_
  cases Superblock.parse (backing.content.read 0 Superblock.length) with
  | ok superblock => exact .except rfl
  | error error => exact .except_error rfl

theorem checkUnlocked_sound_iff
    (bounded : overflow = .wraps → volume.geometry.inodeCount < Limit.word32)
    (ends : volume.checkUnlocked overflow backing = .ok report) :
    report.findings = [] ↔ backing.content.Sound volume.geometry := by
  obtain ⟨outcome, found, ends⟩ := Query.exists_of_bind_ok ends
  have verdict := (volume.readSuperblock_judges backing).damageOr found
  cases outcome with
  | error damage =>
      cases ends
      refine ⟨fun clean => (by cases clean), fun sound => ?_⟩
      obtain ⟨chain, sound⟩ := sound
      obtain ⟨superblock, header⟩ := sound.header
      rw [header.parsed] at verdict
      cases verdict
  | ok superblock =>
      have parsed := eq_ok_of_toOption verdict
      constructor
      · intro clean
        exact ⟨_, ((checkBehind_clean_iff bounded (fun _ _ => rfl) ends).mp clean).sound parsed⟩
      · rintro ⟨chain, sound⟩
        refine (checkBehind_clean_iff bounded (fun number live => ?_) ends).mpr (.of_sound sound parsed)
        rw [Content.chain?_eq_some.mpr (sound.chains.isChain number live)]
        rfl

end Volume

/-! Under the directory lock -/

/-- A query under the directory lock is answered from the bytes as they stand once the lock has been
taken. -/
theorem Volume.exists_of_withDirectoryLock_ok {α : Type} {volume : Volume} {kind : LockKind}
    {query : Query α}
    {backing after : Backing} {value : α}
    (ends : volume.withDirectoryLock kind (query : Update α) backing = (.ok value, after)) :
    ∃ during, volume.directoryLock.acquire kind backing = (.ok (), during) ∧
      query during = .ok value := by
  rw [withDirectoryLock, volume.directoryLock_of_volume] at ends
  obtain ⟨lock, _, located, ends⟩ := Update.exists_of_bind_ok ends
  cases located
  obtain ⟨_, during, acquired, ends⟩ := Update.exists_of_bind_ok ends
  obtain ⟨between, answered⟩ := Update.exists_of_ensuring_ok ends
  rw [Update.lift_apply] at answered
  exact ⟨during, acquired, congrArg Prod.fst answered⟩

namespace Image

variable {image : Image} {backing after : Backing} {report : CheckReport}

theorem perform_check_of_ok (checked : image.volume.check .breaks backing = (.ok report, after)) :
    image.perform .check backing = (.ok (.report report), image, after) := by
  rw [perform, Operation.action, FileAction.bind_apply, FileAction.lift_apply, checked]
  rfl

theorem check_of_perform {image' : Image}
    (performed : image.perform .check backing = (.ok (.report report), image', after)) :
    image.volume.check .breaks backing = (.ok report, after) := by
  rw [perform, Operation.action, FileAction.bind_apply, FileAction.lift_apply] at performed
  rcases ends : image.volume.check .breaks backing with ⟨halt | report', final⟩
  · rw [ends] at performed
    cases performed
  · rw [ends] at performed
    cases performed
    rfl

end Image

end ImageFs
