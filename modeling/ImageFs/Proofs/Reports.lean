import ImageFs.Proofs.Exactness

/-!
When a check ends with a report. Main statement: it does so on every file that is long enough for the
image, whatever the bytes, unless it breaks down, and it breaks down exactly when a directory that can
be followed to its end claims more bytes than a buffer can hold, or when an inode is linked more often
than a counter that may not wrap can tell.
-/

namespace ImageFs

variable {α β : Type}

/-- The query is stopped by nothing but damage. -/
def Decides (query : Query α) (backing : Backing) : Prop :=
  ∀ halt, query backing = .error halt → ∃ block damage, halt = .failed (.corrupt block damage)

/-- The query ends with a value. -/
def Ends (query : Query α) (backing : Backing) : Prop :=
  ∃ value, query backing = .ok value

theorem Ends.bind {query : Query α} {next : α → Query β} {backing : Backing} {value : α}
    (first : query backing = .ok value) (second : Ends (next value) backing) :
    Ends (query >>= next) backing := by
  obtain ⟨value', ends⟩ := second
  exact ⟨value', by rw [Query.bind_ok first, ends]⟩

namespace Decides

variable {backing : Backing}

theorem of_ok {query : Query α} {value : α} (ends : query backing = .ok value) :
    Decides query backing := by
  intro halt ends'
  rw [ends] at ends'
  cases ends'

theorem pure (value : α) : Decides (Pure.pure value) backing :=
  of_ok rfl

theorem of_damage {query : Query α} {block : Nat} {damage : Damage}
    (ends : query backing = .error (.failed (.corrupt block damage))) : Decides query backing := by
  intro halt ends'
  rw [ends] at ends'
  cases ends'
  exact ⟨block, damage, rfl⟩

theorem except {computed : Except FsError α}
    (decides : ∀ error, computed = .error error → ∃ block damage, error = .corrupt block damage) :
    Decides (liftM computed : Query α) backing := by
  intro halt ends
  cases computed with
  | ok value => cases ends
  | error error =>
      cases ends
      obtain ⟨block, damage, rfl⟩ := decides error rfl
      exact ⟨block, damage, rfl⟩

theorem bind {query : Query α} {next : α → Query β} (first : Decides query backing)
    (second : ∀ value, query backing = .ok value → Decides (next value) backing) :
    Decides (query >>= next) backing := by
  intro halt ends
  cases ends' : query backing with
  | ok value =>
      rw [Query.bind_ok ends'] at ends
      exact second value ends' halt ends
  | error halt' =>
      rw [Query.bind_error ends'] at ends
      cases ends
      exact first _ ends'

theorem ite {condition : Prop} [Decidable condition] {yes no : Query α}
    (holds : condition → Decides yes backing) (fails : ¬ condition → Decides no backing) :
    Decides (if condition then yes else no) backing := by
  split
  · next condition => exact holds condition
  · next condition => exact fails condition

theorem answers {query : Query α} {value : α} (decides : Decides query backing)
    (judges : Judges query backing (some value)) : query backing = .ok value := by
  cases ends : query backing with
  | ok value' => rw [Option.some.inj (judges.value ends)]
  | error halt =>
      obtain ⟨block, damage, rfl⟩ := decides halt ends
      cases judges.damage ends

theorem damageOr_crashed {query : Query α} {cause : Crash}
    (breaks : query backing = .error (.crashed cause)) :
    query.damageOr backing = .error (.crashed cause) := by
  simp only [Query.damageOr, tryCatchThe, MonadExceptOf.tryCatch, ← bind_pure_comp,
    Query.bind_error breaks]

/-- Catching the damage leaves nothing that stops the query. -/
theorem damageOr {query : Query α} (decides : Decides query backing) :
    Ends query.damageOr backing := by
  simp only [Ends, Query.damageOr, tryCatchThe, MonadExceptOf.tryCatch, ← bind_pure_comp,
    Query.bind_apply]
  cases ends : query backing with
  | ok value => exact ⟨.ok value, rfl⟩
  | error halt =>
      obtain ⟨block, damage, rfl⟩ := decides halt ends
      exact ⟨.error damage, rfl⟩

end Decides

namespace Content

/-- The inode claims more bytes than a buffer can hold, and what is looked at before the buffer is
made is in order. -/
structure Oversized (content : Content) (geometry : Geometry) (inode : Inode) : Prop where
  whole : inode.size.toNat % recordLength = 0
  chained : (content.chain? geometry inode.firstBlock.toNat).isSome
  large : Limit.buffer ≤ inode.size.toNat

/-- The directory is too large to be read. -/
structure Vast (content : Content) (geometry : Geometry) (number : Nat) : Prop where
  directory : content.Directory geometry number
  oversized : content.Oversized geometry (content.inode geometry number)

/-- How a check ends that has the tree for itself: behind a superblock that can be read it meets a
directory that is too large, or an inode that is linked more often than a counter can tell, unless
counters wrap; otherwise it gives a report. -/
inductive CheckEnding (content : Content) (geometry : Geometry) (overflow : Check.Overflow) :
    Except Halt CheckReport → Prop where
  | vast {superblock : Superblock} {directory : Nat}
      (readable : Superblock.parse (content.read 0 Superblock.length) = .ok superblock)
      (vast : content.Vast geometry directory) :
      CheckEnding content geometry overflow (.error (.crashed (.oversizedBuffer
        (content.inode geometry directory).size.toNat)))
  | crowded {superblock : Superblock} {number : Nat}
      (readable : Superblock.parse (content.read 0 Superblock.length) = .ok superblock)
      (breaks : overflow = .breaks) (many : Limit.word32 ≤ content.linkCount geometry number) :
      CheckEnding content geometry overflow (.error (.crashed (.linkOverflow number)))
  | report
      (fits : ∀ superblock,
        Superblock.parse (content.read 0 Superblock.length) = .ok superblock →
          (∀ directory, ¬ content.Vast geometry directory) ∧
          (overflow = .breaks → ∀ number, content.linkCount geometry number < Limit.word32))
      (report : CheckReport) :
      CheckEnding content geometry overflow (.ok report)

theorem CheckEnding.ne_blocked {content : Content} {geometry : Geometry}
    {overflow : Check.Overflow} {ending : Except Halt CheckReport}
    (ends : content.CheckEnding geometry overflow ending) : ending ≠ .error .blocked := by
  cases ends <;> nofun

end Content

namespace Device

theorem read_decides {volume : Volume} {backing : Backing} {offset count : Nat}
    (long : volume.geometry.imageLength ≤ backing.content.size)
    (inside : offset + count ≤ volume.geometry.imageLength) :
    Decides (volume.device.read offset count) backing :=
  .of_ok (volume.read_of_long long inside)

end Device

namespace Volume

variable {volume : Volume} {backing : Backing} {overflow : Check.Overflow}

/-! Inodes and chains -/

theorem mapError_toCorrupt_decides {answer : Except RecordError α} (block : Nat) :
    Decides (liftM (answer.mapError (RecordError.toCorrupt block)) : Query α) backing := by
  refine .except fun error fails => ?_
  cases answer with
  | ok value => cases fails
  | error cause =>
      cases fails
      exact ⟨block, .record cause, rfl⟩

theorem checkDataBlock_decides (block : Nat) :
    Decides (volume.checkDataBlock block : Query Unit) backing := by
  refine .except fun error fails => ?_
  by_cases isData : volume.geometry.IsData block
  · rw [volume.checkDataBlock_of_isData isData] at fails
    cases fails
  · rw [volume.checkDataBlock_of_not_isData isData] at fails
    cases fails
    exact ⟨block, _, rfl⟩

theorem isData_of_checked {block : Nat}
    (checked : (volume.checkDataBlock block : Query Unit) backing = .ok ()) :
    volume.geometry.IsData block := by
  by_contra outside
  rw [volume.checkDataBlock_of_not_isData outside] at checked
  cases checked

section Long

variable (long : volume.geometry.imageLength ≤ backing.content.size)

include long

theorem getInode_decides {number : Nat} (inside : number < volume.geometry.inodeCount) :
    Decides (volume.getInode number) backing := by
  have record : Decides (volume.readInodeRecord number) backing := by
    rw [readInodeRecord, volume.inodeOffset_of_lt inside]
    refine (Decides.pure (Area.first volume.geometry (.record number))).bind ?_
    intro offset same
    cases same
    exact Device.read_decides long (Area.stop_le_imageLength (.record number) inside)
  exact record.bind fun _ _ => mapError_toCorrupt_decides _

theorem nextBlock_decides {block : Nat} (isData : volume.geometry.IsData block) :
    Decides (volume.nextBlock block) backing := by
  rw [nextBlock, volume.linkOffset_of_isData isData]
  refine (Decides.pure (Area.first volume.geometry (.link block))).bind ?_
  intro offset same
  cases same
  refine (Device.read_decides long (Area.stop_le_imageLength (.link block) isData)).bind ?_
  exact fun bytes _ => .pure _

theorem walkChain_decides (first budget current : Nat) :
    Decides (volume.walkChain first budget current) backing := by
  induction budget generalizing current with
  | zero =>
      rw [walkChain.eq_def]
      refine .ite (fun _ => .pure _) fun _ => ?_
      exact (checkDataBlock_decides current).bind fun _ _ => .of_damage rfl
  | succ budget induction =>
      rw [walkChain.eq_def]
      refine .ite (fun _ => .pure _) fun _ => ?_
      refine (checkDataBlock_decides current).bind fun _ checked => ?_
      refine (nextBlock_decides long (isData_of_checked checked)).bind fun next _ => ?_
      exact (induction next).bind fun rest _ => .pure _

theorem chain_decides (first : Nat) : Decides (volume.chain first) backing :=
  walkChain_decides long first _ first

/-! Directories -/

theorem readPieces_decides {blocks : List Nat} {length : Nat}
    (isData : ∀ block ∈ blocks, volume.geometry.IsData block) :
    Decides (volume.readPieces (Piece.cover volume.geometry.payloadSize blocks 0 length))
      backing := by
  induction blocks generalizing length with
  | nil => exact .pure []
  | cons block rest induction =>
      have here := isData block List.mem_cons_self
      have stop := volume.geometry.data_end_le here
      have sum := volume.geometry.payloadSize_add
      have positive := volume.geometry.payloadSize_pos
      rw [Piece.cover]
      split
      · exact .pure []
      · rw [if_neg (Nat.not_le.mpr positive)]
        refine (Decides.except fun error fails => ?_).bind fun start located => ?_
        · rw [volume.blockOffset_of_isData here] at fails
          cases fails
        · rw [volume.blockOffset_of_isData here] at located
          cases located
          refine (Device.read_decides long (by dsimp only; omega)).bind fun bytes _ => ?_
          exact (induction fun other member => isData other (.tail _ member)).bind
            fun others _ => .pure _

theorem readListing_decides {directory : Inode}
    (fits : ¬ backing.content.Oversized volume.geometry directory) :
    Decides (volume.readListing directory) backing := by
  rw [readListing]
  refine .ite (fun _ => .of_damage rfl) fun whole => ?_
  refine (chain_decides long _).bind fun blocks walked => ?_
  have isChain := (volume.chain_judges backing _).value walked
  have isData := (Content.chain?_eq_some.mp isChain).isData
  have small : ¬ Limit.buffer ≤ directory.size.toNat := fun large =>
    fits ⟨not_not.mp whole, Option.isSome_iff_exists.mpr ⟨blocks, isChain⟩, large⟩
  rw [if_neg small]
  refine Decides.bind ?_ fun bytes _ => .pure _
  refine Decides.bind (.except fun error fails => ?_) fun pieces covered => ?_
  · rw [Volume.pieces] at fails
    split at fails
    · cases fails
      exact ⟨_, _, rfl⟩
    · cases fails
  · rw [Volume.pieces] at covered
    split at covered
    · cases covered
    · cases covered
      exact readPieces_decides long isData

theorem readListing_oversized {directory : Inode}
    (oversized : backing.content.Oversized volume.geometry directory) :
    volume.readListing directory backing =
      .error (.crashed (.oversizedBuffer directory.size.toNat)) := by
  obtain ⟨blocks, isChain⟩ := Option.isSome_iff_exists.mp oversized.chained
  have walked := (chain_decides long _).answers
    (isChain ▸ volume.chain_judges backing directory.firstBlock.toNat)
  rw [readListing]
  dsimp only
  rw [if_neg (not_not.mpr oversized.whole)]
  refine (Query.bind_ok walked).trans ?_
  rw [if_pos oversized.large]
  rfl

theorem getInode_of_live {number : Nat} (live : backing.content.Live volume.geometry number) :
    volume.getInode number backing = .ok (backing.content.inode volume.geometry number) := by
  have judges := volume.getInode_judges backing live.inside
  rw [Content.slot_of_live live] at judges
  exact (getInode_decides long live.inside).answers judges

theorem list_decides {number : Nat}
    (directory : backing.content.Directory volume.geometry number)
    (fits : ¬ backing.content.Vast volume.geometry number) :
    Decides (volume.list number) backing := by
  refine (getInode_decides long directory.live.inside).bind fun inode read => ?_
  cases read.symm.trans (getInode_of_live long directory.live)
  rw [directory.isDirectory]
  refine (readListing_decides long fun oversized => fits ⟨directory, oversized⟩).bind
    fun listing read' => ?_
  have found := (volume.readListing_judges backing _).value read'
  exact .of_ok (decodeAll_apply backing fun record => Content.length_of_mem_listing found)

theorem list_vast {number : Nat} (vast : backing.content.Vast volume.geometry number) :
    volume.list number backing = .error (.crashed (.oversizedBuffer
      (backing.content.inode volume.geometry number).size.toNat)) := by
  refine (Query.bind_ok (getInode_of_live long vast.directory.live)).trans ?_
  rw [vast.directory.isDirectory]
  exact Query.bind_error (readListing_oversized long vast.oversized)

/-! The parts of the check -/

theorem scanFrom_ends {first count : Nat}
    (inside : first + count ≤ volume.geometry.inodeCount) :
    Ends (Check.scanFrom volume count first) backing := by
  induction count generalizing first with
  | zero => exact ⟨_, rfl⟩
  | succ count induction =>
      obtain ⟨outcome, read⟩ := (getInode_decides long (show first < _ by omega)).damageOr
      obtain ⟨⟨inodes, findings⟩, scanned⟩ := induction (show first + 1 + count ≤ _ by omega)
      refine .bind read (.bind scanned ?_)
      cases outcome with
      | error damage => exact ⟨_, rfl⟩
      | ok inode =>
          dsimp only
          split
          · exact ⟨_, rfl⟩
          · split <;> exact ⟨_, rfl⟩

theorem checkChains_ends (bitmap : Bytes) (inodes : Check.LiveInodes) (owners : Check.Owners) :
    Ends (Check.checkChains volume bitmap inodes owners) backing := by
  induction inodes generalizing owners with
  | nil => exact ⟨_, rfl⟩
  | cons node rest induction =>
      obtain ⟨number, inode⟩ := node
      obtain ⟨outcome, read⟩ := (chain_decides long inode.firstBlock.toNat).damageOr
      refine .bind read ?_
      cases outcome with
      | error damage =>
          obtain ⟨⟨owners', findings⟩, walked⟩ := induction owners
          exact .bind walked ⟨_, rfl⟩
      | ok blocks =>
          obtain ⟨⟨owners', findings⟩, walked⟩ := induction
            (Check.claimBlocks volume.geometry bitmap number blocks owners).1
          exact .bind walked ⟨_, rfl⟩

/-- Only directories that are too large and counters at their end stop the check of the directories. -/
theorem checkDirectories_stops {halt : Halt}
    (ends : Check.checkDirectories overflow volume (backing.content.liveInodes volume.geometry)
      (backing.content.liveInodes volume.geometry) [] backing = .error halt) :
    (∃ directory, backing.content.Vast volume.geometry directory ∧
      halt = .crashed (.oversizedBuffer
        (backing.content.inode volume.geometry directory).size.toNat)) ∨
    ∃ number, overflow = .breaks ∧
      Limit.word32 ≤ backing.content.linkCount volume.geometry number ∧
      halt = .crashed (.linkOverflow number) := by
  rcases Check.checkDirectories_error (fun node member => Content.mem_liveInodes.mp member) ends with
    ⟨⟨number, inode⟩, member, isDirectory, stopped⟩ | ⟨breaks, number, many, isHalt⟩
  · obtain ⟨live, rfl⟩ := Content.mem_liveInodes.mp member
    left
    by_cases vast : backing.content.Vast volume.geometry number
    · cases (Decides.damageOr_crashed (list_vast long vast)).symm.trans stopped
      exact ⟨number, vast, rfl⟩
    · obtain ⟨outcome, read⟩ := (list_decides long ⟨live, isDirectory⟩ vast).damageOr
      cases read.symm.trans stopped
  · right
    have zero : (Check.linkCount [] number).toNat = 0 := rfl
    rw [zero, Nat.zero_add] at many
    exact ⟨number, breaks, many, isHalt⟩

/-- Where the check of the directories ends, nothing was there to stop it. -/
theorem checkDirectories_fits {checked : Check.LinkCounts × List Finding}
    (ends : Check.checkDirectories overflow volume (backing.content.liveInodes volume.geometry)
      (backing.content.liveInodes volume.geometry) [] backing = .ok checked) :
    (∀ directory, ¬ backing.content.Vast volume.geometry directory) ∧
      (overflow = .breaks →
        ∀ number, backing.content.linkCount volume.geometry number < Limit.word32) := by
  obtain ⟨-, -, room, reads⟩ :=
    Check.checkDirectories_ok (fun node member => Content.mem_liveInodes.mp member) ends
  refine ⟨fun directory vast => ?_, fun breaks number => ?_⟩
  · have member : (directory, backing.content.inode volume.geometry directory) ∈
        backing.content.liveInodes volume.geometry :=
      Content.mem_liveInodes.mpr ⟨vast.directory.live, rfl⟩
    obtain ⟨outcome, read⟩ := reads _ member vast.directory.isDirectory
    cases (Decides.damageOr_crashed (list_vast long vast)).symm.trans read
  · have short := room breaks number
    have zero : (Check.linkCount [] number).toNat = 0 := rfl
    rwa [zero, Nat.zero_add] at short

/-- Only the directories can stop the check. -/
theorem checkBehind_follows (superblock : Superblock) :
    ∃ next : Check.LinkCounts × List Finding → Query CheckReport,
      volume.checkBehind overflow superblock backing =
        (Check.checkDirectories overflow volume (backing.content.liveInodes volume.geometry)
          (backing.content.liveInodes volume.geometry) [] >>= next) backing ∧
      ∀ value, Ends (next value) backing := by
  have bitmap : volume.readBitmap backing = .ok (backing.content.bitmap volume.geometry) :=
    (Device.read_decides long (Area.stop_le_imageLength .bitmap trivial)).answers
      (volume.device.read_judges _ _ backing)
  obtain ⟨⟨inodes, slots⟩, scanned⟩ :=
    scanFrom_ends long (Nat.le_of_eq (Nat.zero_add volume.geometry.inodeCount))
  obtain ⟨isInodes, -⟩ := Check.scanFrom_ok (Nat.le_of_eq (Nat.zero_add _)) scanned
  obtain rfl : inodes = backing.content.liveInodes volume.geometry := isInodes
  obtain ⟨⟨owners, chains⟩, walked⟩ := checkChains_ends long
    (backing.content.bitmap volume.geometry) (backing.content.liveInodes volume.geometry) []
  exact ⟨_, (Query.bind_ok bitmap).trans ((Query.bind_ok scanned).trans (Query.bind_ok walked)),
    fun value => ⟨_, rfl⟩⟩

theorem readSuperblock_decides : Decides volume.readSuperblock backing := by
  have minimum := volume.geometry.minimum
  have bitmapEnd := volume.geometry.bitmap_le
  have table := volume.geometry.firstInode_le_dataStart
  have behind := volume.geometry.data_start_le_imageLength
  have start : volume.geometry.bitmapOffset = volume.geometry.blockSize := rfl
  have isLength : Superblock.length = 80 := rfl
  exact (Device.read_decides long (by omega)).bind fun _ _ => mapError_toCorrupt_decides _

/-- How the check of a file ends that has its full length. -/
theorem checkUnlocked_ending : ∃ ending,
    backing.content.CheckEnding volume.geometry overflow ending ∧
      volume.checkUnlocked overflow backing = ending := by
  obtain ⟨outcome, read⟩ := (readSuperblock_decides long).damageOr
  have verdict := (volume.readSuperblock_judges backing).damageOr read
  have goesOn : volume.checkUnlocked overflow backing = _ := Query.bind_ok read
  cases outcome with
  | error damage =>
      refine ⟨_, .report (fun superblock parsed => ?_) _, goesOn⟩
      rw [parsed] at verdict
      cases verdict
  | ok superblock =>
      have parsed := eq_ok_of_toOption verdict
      obtain ⟨next, follows, ends⟩ := @checkBehind_follows volume backing overflow long superblock
      cases checked : Check.checkDirectories overflow volume
          (backing.content.liveInodes volume.geometry)
          (backing.content.liveInodes volume.geometry) [] backing with
      | ok value =>
          obtain ⟨report, isReport⟩ := ends value
          exact ⟨_, .report (fun _ _ => checkDirectories_fits long checked) report,
            goesOn.trans (follows.trans ((Query.bind_ok checked).trans isReport))⟩
      | error halt =>
          have stops := goesOn.trans (follows.trans (Query.bind_error checked))
          rcases checkDirectories_stops long checked with
            ⟨directory, vast, rfl⟩ | ⟨number, breaks, many, rfl⟩
          · exact ⟨_, .vast parsed vast, stops⟩
          · exact ⟨_, .crowded parsed breaks many, stops⟩

/-- The check gives a report where nothing is there to stop it. -/
theorem checkUnlocked_ends
    (fits : ∀ directory, ¬ backing.content.Vast volume.geometry directory)
    (few : overflow = .breaks →
      ∀ number, backing.content.linkCount volume.geometry number < Limit.word32) :
    Ends (volume.checkUnlocked overflow) backing := by
  obtain ⟨ending, ends, checks⟩ := @checkUnlocked_ending volume backing overflow long
  cases ends with
  | vast readable vast => exact absurd vast (fits _)
  | crowded readable breaks many => exact absurd many (Nat.not_le.mpr (few breaks _))
  | report fits report => exact ⟨report, checks⟩

end Long

end Volume

end ImageFs
