import ImageFs.Proofs.Metadata

/-!
Queries on a file with arbitrary bytes. A query finds a value or damage, as far as neither the host
nor the machine stops it. Main statements: what the queries for inodes, chains and directories find,
as functions of the bytes alone.
-/

namespace ImageFs

variable {α β : Type}

theorem eq_ok_of_toOption {answer : Except β α} {value : α} (found : answer.toOption = some value) :
    answer = .ok value := by
  cases answer with
  | ok value' => exact congrArg _ (Option.some.inj found)
  | error error => cases found

/-- When the query ends with a value it is the one of the verdict, and when it ends with damage the
verdict is that there is none. -/
structure Judges (query : Query α) (backing : Backing) (verdict : Option α) : Prop where
  value : ∀ {value : α}, query backing = .ok value → verdict = some value
  damage : ∀ {block : Nat} {damage : Damage},
    query backing = .error (.failed (.corrupt block damage)) → verdict = none

namespace Judges

variable {backing : Backing}

theorem of_ok {query : Query α} {value : α} (ends : query backing = .ok value) :
    Judges query backing (some value) where
  value ends' := by
    rw [ends] at ends'
    exact congrArg some (Except.ok.inj ends')
  damage ends' := by rw [ends] at ends'; cases ends'

theorem of_error {query : Query α} {halt : Halt} (ends : query backing = .error halt) :
    Judges query backing none where
  value ends' := by rw [ends] at ends'; cases ends'
  damage _ := rfl

/-- The host or the machine stopped the query. -/
theorem of_stopped {query : Query α} {halt : Halt} (ends : query backing = .error halt)
    (innocent : ∀ block damage, halt ≠ .failed (.corrupt block damage)) (verdict : Option α) :
    Judges query backing verdict where
  value ends' := by rw [ends] at ends'; cases ends'
  damage ends' := by
    rw [ends] at ends'
    exact absurd (Except.error.inj ends') (innocent _ _)

theorem pure (value : α) : Judges (Pure.pure value) backing (some value) :=
  of_ok rfl

theorem throw (error : FsError) : Judges (MonadExcept.throw error : Query α) backing none :=
  of_error rfl

theorem except {computed : Except FsError α} {value : α} (equal : computed = .ok value) :
    Judges (liftM computed : Query α) backing (some value) := by
  subst equal
  exact of_ok rfl

theorem except_error {computed : Except FsError α} {error : FsError}
    (equal : computed = .error error) : Judges (liftM computed : Query α) backing none := by
  subst equal
  exact of_error rfl

theorem bind {query : Query α} {next : α → Query β} {verdict : Option α}
    {verdict' : α → Option β} (first : Judges query backing verdict)
    (second : ∀ value, verdict = some value → Judges (next value) backing (verdict' value)) :
    Judges (query >>= next) backing (verdict.bind verdict') := by
  cases ends : query backing with
  | ok value =>
      have isValue := first.value ends
      have rest := second value isValue
      rw [isValue]
      exact ⟨fun ends' => rest.value (by rwa [Query.bind_ok ends] at ends'),
        fun ends' => rest.damage (by rwa [Query.bind_ok ends] at ends')⟩
  | error halt =>
      refine ⟨fun ends' => ?_, fun ends' => ?_⟩
      · rw [Query.bind_error ends] at ends'
        cases ends'
      · rw [Query.bind_error ends] at ends'
        rw [first.damage (ends.trans (congrArg _ (Except.error.inj ends')))]
        rfl

theorem bind_some {query : Query α} {next : α → Query β} {value : α} {verdict : Option β}
    (first : Judges query backing (some value)) (second : Judges (next value) backing verdict) :
    Judges (query >>= next) backing verdict :=
  show Judges (query >>= next) backing ((some value).bind fun _ => verdict) from
    first.bind fun _ same => Option.some.inj same ▸ second

theorem bind_none {query : Query α} {next : α → Query β} (first : Judges query backing none) :
    Judges (query >>= next) backing none :=
  show Judges (query >>= next) backing ((none : Option α).bind fun _ => none) from
    first.bind fun _ same => by cases same

theorem ite {condition : Prop} [Decidable condition] {yes no : Query α}
    {verdict verdict' : Option α} (holds : condition → Judges yes backing verdict)
    (fails : ¬ condition → Judges no backing verdict') :
    Judges (if condition then yes else no) backing (if condition then verdict else verdict') := by
  split
  · next condition => exact holds condition
  · next condition => exact fails condition

theorem damageOr {query : Query α} {verdict : Option α} (judges : Judges query backing verdict)
    {outcome : Except Damage α} (ends : query.damageOr backing = .ok outcome) :
    verdict = outcome.toOption := by
  simp only [Query.damageOr, tryCatchThe, MonadExceptOf.tryCatch, ← bind_pure_comp,
    Query.bind_apply] at ends
  cases found : query backing with
  | ok value =>
      rw [found] at ends
      cases ends
      exact judges.value found
  | error halt =>
      rw [found] at ends
      split at ends
      · next error halted =>
        cases halted
        split at ends
        · next block damage =>
          cases ends
          exact judges.damage found
        · cases ends
      · next passed =>
        cases ends

end Judges

theorem Query.exists_of_bind_ok {query : Query α} {next : α → Query β} {backing : Backing}
    {value : β} (ends : (query >>= next) backing = .ok value) :
    ∃ between, query backing = .ok between ∧ next between backing = .ok value := by
  rw [Query.bind_apply] at ends
  cases first : query backing with
  | ok between =>
      rw [first] at ends
      exact ⟨between, rfl, ends⟩
  | error halt =>
      rw [first] at ends
      cases ends

/-- What stops a query that only goes on to compute. -/
theorem Query.error_of_bind_pure {query : Query α} {next : α → β} {backing : Backing} {halt : Halt}
    (ends : (query >>= fun value => pure (next value)) backing = .error halt) :
    query backing = .error halt := by
  rw [Query.bind_apply] at ends
  cases first : query backing with
  | ok value =>
      rw [first] at ends
      cases ends
  | error halt' =>
      rw [first] at ends
      exact congrArg _ (Except.error.inj ends)

/-- A query whose damage was caught ended well. -/
theorem Query.of_damageOr_ok {query : Query α} {backing : Backing} {value : α}
    (ends : query.damageOr backing = .ok (.ok value)) : query backing = .ok value := by
  simp only [Query.damageOr, tryCatchThe, MonadExceptOf.tryCatch, ← bind_pure_comp,
    Query.bind_apply] at ends
  cases found : query backing with
  | ok value' =>
      rw [found] at ends
      cases ends
      rfl
  | error halt =>
      rw [found] at ends
      split at ends
      · next error halted =>
        cases halted
        split at ends <;> cases ends
      · cases ends

/-! Inodes -/

namespace Device

theorem read_judges (device : Device) (offset count : Nat) (backing : Backing) :
    Judges (device.read offset count) backing (some (backing.content.read offset count)) := by
  rw [read, checkBounds]
  split
  · exact .of_stopped rfl (by simp) _
  · split
    · exact .of_stopped rfl (by simp) _
    · refine (Judges.except rfl).bind_some ?_
      by_cases short : 0 < count ∧ backing.content.size < offset + count
      · exact .of_stopped (if_pos short) (by simp) _
      · exact .of_ok (if_neg short)

theorem readWord_judges (device : Device) (offset : Nat) (backing : Backing) :
    Judges (device.readWord offset) backing (some (backing.content.read offset 8).toNat) :=
  (device.read_judges offset 8 backing).bind_some (.pure _)

end Device

namespace Volume

variable (volume : Volume) (backing : Backing)

theorem getInode_judges {number : Nat} (inside : number < volume.geometry.inodeCount) :
    Judges (volume.getInode number) backing
      (backing.content.slot volume.geometry number).toOption := by
  have record : Judges (volume.readInodeRecord number) backing
      (some (backing.content.area volume.geometry (.record number))) :=
    (Judges.except (volume.inodeOffset_of_lt inside)).bind_some
      (volume.device.read_judges _ _ backing)
  refine record.bind_some ?_
  change Judges (liftM (Except.mapError _ (backing.content.slot volume.geometry number))) _ _
  cases parsed : backing.content.slot volume.geometry number with
  | ok inode => exact .except rfl
  | error error => exact .except_error rfl

end Volume

/-! Chains -/

namespace Content

variable (content : Content) (geometry : Geometry)

/-- The blocks from `current` on, if there are at most `budget` many. -/
def walk? : Nat → Nat → Option (List Nat)
  | 0, current => if current = 0 then some [] else none
  | budget + 1, current =>
      if current = 0 then some []
      else if geometry.IsData current then
        (walk? budget (content.next geometry current)).map (current :: ·)
      else none

/-- The blocks of the chain that starts at a block, unless it leaves the data area or loops. -/
def chain? (first : Nat) : Option (List Nat) :=
  content.walk? geometry geometry.blocks first

variable {content geometry}

theorem IsChain.of_walk {budget current : Nat} {blocks : List Nat}
    (walked : content.walk? geometry budget current = some blocks) :
    content.IsChain geometry current blocks := by
  induction budget generalizing current blocks with
  | zero =>
      rw [walk?] at walked
      split at walked
      · next ends =>
        cases walked
        exact ⟨ends.symm, by simp, trivial⟩
      · cases walked
  | succ budget induction =>
      rw [walk?] at walked
      split at walked
      · next ends =>
        cases walked
        exact ⟨ends.symm, by simp, trivial⟩
      · split at walked
        · next isData =>
          obtain ⟨rest, walked', rfl⟩ := Option.map_eq_some_iff.mp walked
          have others := induction walked'
          refine ⟨rfl, ?_, others.head.symm, others.linked⟩
          intro block member
          rcases List.mem_cons.mp member with rfl | member
          · exact isData
          · exact others.isData block member
        · cases walked

theorem IsChain.walk {budget first : Nat} {blocks : List Nat}
    (isChain : content.IsChain geometry first blocks) (short : blocks.length ≤ budget) :
    content.walk? geometry budget first = some blocks := by
  induction blocks generalizing budget first with
  | nil =>
      obtain rfl : 0 = first := isChain.head
      cases budget <;> rfl
  | cons block rest induction =>
      obtain rfl : block = first := isChain.head
      have here := isChain.isData block List.mem_cons_self
      have others : content.IsChain geometry (content.next geometry block) rest :=
        ⟨isChain.linked.1.symm, fun other member => isChain.isData other (.tail _ member),
          isChain.linked.2⟩
      cases budget with
      | zero => exact absurd short (Nat.not_succ_le_zero _)
      | succ budget =>
          rw [walk?, if_neg (geometry.ne_zero_of_isData here), if_pos here,
            induction others (Nat.le_of_succ_le_succ short)]
          rfl

theorem chain?_eq_some {first : Nat} {blocks : List Nat} :
    content.chain? geometry first = some blocks ↔ content.IsChain geometry first blocks :=
  ⟨IsChain.of_walk, fun isChain =>
    isChain.walk (geometry.length_le_blocks isChain.isData isChain.nodup)⟩

end Content

namespace Volume

variable (volume : Volume) (backing : Backing)

theorem nextBlock_judges {block : Nat} (isData : volume.geometry.IsData block) :
    Judges (volume.nextBlock block) backing (some (backing.content.next volume.geometry block)) :=
  (Judges.except (volume.linkOffset_of_isData isData)).bind_some
    (volume.device.readWord_judges _ backing)

theorem walkChain_judges (first budget current : Nat) :
    Judges (volume.walkChain first budget current) backing
      (backing.content.walk? volume.geometry budget current) := by
  induction budget generalizing current with
  | zero =>
      rw [walkChain.eq_def, Content.walk?]
      refine .ite (fun _ => .pure _) fun _ => ?_
      by_cases isData : volume.geometry.IsData current
      · exact (Judges.except (volume.checkDataBlock_of_isData isData)).bind_some (.throw _)
      · exact (Judges.except_error (volume.checkDataBlock_of_not_isData isData)).bind_none
  | succ budget induction =>
      rw [walkChain.eq_def, Content.walk?]
      refine .ite (fun _ => .pure _) fun _ => ?_
      by_cases isData : volume.geometry.IsData current
      · rw [if_pos isData, Option.map_eq_bind]
        refine (Judges.except (volume.checkDataBlock_of_isData isData)).bind_some ?_
        refine (volume.nextBlock_judges backing isData).bind_some ?_
        exact (induction _).bind fun rest _ => .pure _
      · rw [if_neg isData]
        exact (Judges.except_error (volume.checkDataBlock_of_not_isData isData)).bind_none

theorem chain_judges (first : Nat) :
    Judges (volume.chain first) backing (backing.content.chain? volume.geometry first) :=
  volume.walkChain_judges backing first _ first

/-! Directories -/

theorem readPieces_judges {blocks : List Nat} {length : Nat}
    (isData : ∀ block ∈ blocks, volume.geometry.IsData block)
    (fits : length ≤ blocks.length * volume.geometry.payloadSize) :
    Judges (volume.readPieces (Piece.cover volume.geometry.payloadSize blocks 0 length)) backing
      (some ((backing.content.stream volume.geometry blocks).take length)) := by
  induction blocks generalizing length with
  | nil =>
      rw [List.length_nil, Nat.zero_mul] at fits
      rw [Nat.le_zero.mp fits, List.take_zero]
      exact .pure []
  | cons block rest induction =>
      have here := isData block List.mem_cons_self
      have others := fun other member => isData other (List.mem_cons_of_mem block member)
      have positive := volume.geometry.payloadSize_pos
      rw [List.length_cons, Nat.succ_mul] at fits
      rw [Piece.cover]
      by_cases none : length = 0
      · rw [if_pos none, none, List.take_zero]
        exact .pure []
      rw [if_neg none, if_neg (Nat.not_le.mpr positive)]
      let first := min (volume.geometry.payloadSize - 0) length
      have reads : backing.content.read (block * volume.geometry.blockSize + 0) first =
          (backing.content.payload volume.geometry block).take length := by
        rw [Content.payload, show volume.geometry.payloadSize =
          first + (volume.geometry.payloadSize - first) by omega, Content.read_append]
        rcases Nat.le_total volume.geometry.payloadSize length with full | part
        · rw [show volume.geometry.payloadSize - first = 0 by omega,
            List.take_of_length_le (by simp; omega)]
          simp [Content.read]
        · rw [List.take_left' (by simp; omega)]
          rfl
      have streams : (backing.content.stream volume.geometry (block :: rest)).take length =
          backing.content.read (block * volume.geometry.blockSize + 0) first ++
            (backing.content.stream volume.geometry rest).take (length - first) := by
        rw [Content.stream, List.flatMap_cons, List.take_append, reads,
          Content.length_payload, show length - first = length - volume.geometry.payloadSize by omega]
        rfl
      rw [streams]
      refine (Judges.except (volume.blockOffset_of_isData here)).bind_some ?_
      refine (volume.device.read_judges _ _ backing).bind_some ?_
      exact (induction others (by omega)).bind_some (.pure _)

end Volume

namespace Content

variable (content : Content) (geometry : Geometry)

/-- The records of a directory with the blocks that they lie in, unless its size or its chain
keeps them from being read. -/
def listing? (directory : Inode) : Option Listing :=
  let size := directory.size.toNat
  if size % recordLength ≠ 0 then none
  else (content.chain? geometry directory.firstBlock.toNat).bind fun blocks =>
    if blocks.length * geometry.payloadSize < size then none
    else some ⟨blocks, content.records geometry blocks size⟩

variable {content geometry}

theorem listing?_eq_some {directory : Inode} {listing : Listing} :
    content.listing? geometry directory = some listing ↔
      directory.size.toNat % recordLength = 0 ∧
      content.IsChain geometry directory.firstBlock.toNat listing.chain ∧
      directory.size.toNat ≤ listing.chain.length * geometry.payloadSize ∧
      listing.records = content.records geometry listing.chain directory.size.toNat := by
  obtain ⟨blocks, records⟩ := listing
  rw [listing?]
  by_cases whole : directory.size.toNat % recordLength = 0
  · rw [if_neg (not_not.mpr whole)]
    constructor
    · intro found
      obtain ⟨blocks', isChain, found'⟩ := Option.bind_eq_some_iff.mp found
      split at found'
      · cases found'
      · next enough =>
        cases found'
        exact ⟨whole, chain?_eq_some.mp isChain, Nat.not_lt.mp enough, rfl⟩
    · rintro ⟨-, isChain, enough, isRecords⟩
      dsimp only at isChain enough isRecords
      rw [chain?_eq_some.mpr isChain, Option.bind_some, if_neg (Nat.not_lt.mpr enough), isRecords]
  · rw [if_pos whole]
    exact ⟨fun found => (by cases found), fun facts => absurd facts.1 whole⟩

theorem length_of_mem_listing {directory : Inode} {listing : Listing}
    (found : content.listing? geometry directory = some listing) {record : Bytes}
    (member : record ∈ listing.records) : record.length = recordLength := by
  obtain ⟨-, -, enough, isRecords⟩ := listing?_eq_some.mp found
  rw [isRecords] at member
  exact length_of_mem_records enough member

end Content

theorem Listing.decode_of_record {listing : Listing} {slot : Nat} {record : Bytes}
    (isRecord : listing.records[slot]? = some record) (length : record.length = recordLength) :
    listing.decode slot = .ok (DirEntry.ofRecord record) := by
  rw [decode, isRecord]
  dsimp only
  rw [DirEntry.parse_eq_ofRecord length]
  rfl

namespace Volume

variable (volume : Volume) (backing : Backing)

theorem readListing_judges (directory : Inode) :
    Judges (volume.readListing directory) backing
      (backing.content.listing? volume.geometry directory) := by
  rw [readListing, Content.listing?]
  refine .ite (fun _ => .throw _) fun _ => ?_
  refine (volume.chain_judges backing _).bind fun blocks isChain => ?_
  by_cases oversized : Limit.buffer ≤ directory.size.toNat
  · rw [if_pos oversized]
    exact @Judges.of_stopped _ _ _ (.crashed (.oversizedBuffer _)) rfl (by simp) _
  rw [if_neg oversized]
  have isData := (Content.chain?_eq_some.mp isChain).isData
  have bounded : directory.size.toNat < Limit.word64 := directory.size.toNat_lt
  have stop : min (0 + directory.size.toNat) (Limit.word64 - 1) = directory.size.toNat := by omega
  split
  · next beyond =>
    have refused : volume.pieces blocks 0 directory.size.toNat = .error (.corrupt
        (blocks.getLast?.getD 0)
        (.beyondChain 0 directory.size.toNat (volume.chainCapacity blocks))) := by
      rw [pieces, stop]
      exact if_pos beyond
    exact (Judges.except_error refused).bind_none.bind_none
  · next enough =>
    have covered := @pieces_of_fits volume blocks 0 directory.size.toNat (by omega)
    have read : Judges (volume.readChain blocks 0 directory.size.toNat) backing
        (some ((backing.content.stream volume.geometry blocks).take directory.size.toNat)) :=
      (Judges.except covered).bind_some
        (volume.readPieces_judges backing isData (Nat.not_lt.mp enough))
    exact read.bind_some (.pure _)

theorem decodeAll_apply {listing : Listing}
    (length : ∀ record ∈ listing.records, record.length = recordLength) :
    ((List.range listing.records.length).mapM (listing.decode ·) : Query (List DirEntry)) backing =
      .ok (listing.records.map DirEntry.ofRecord) := by
  have each : ∀ slots : List Nat, (∀ slot ∈ slots, slot < listing.records.length) →
      (slots.mapM (listing.decode ·) : Query (List DirEntry)) backing =
        .ok (slots.map fun slot => DirEntry.ofRecord (listing.records[slot]?.getD [])) := by
    intro slots inside
    induction slots with
    | nil => rfl
    | cons slot rest induction =>
        have here := inside slot List.mem_cons_self
        have isRecord := List.getElem?_eq_getElem here
        have decoded : (liftM (listing.decode slot) : Query DirEntry) backing =
            .ok (DirEntry.ofRecord (listing.records[slot]?.getD [])) := by
          rw [Listing.decode_of_record isRecord (length _ (List.getElem_mem here)), isRecord]
          rfl
        have others := induction fun other member => inside other (List.mem_cons_of_mem _ member)
        rw [List.mapM_cons, Query.bind_ok decoded, Query.bind_ok others]
        rfl
  rw [each _ fun slot member => List.mem_range.mp member]
  refine congrArg Except.ok (List.ext_getElem? fun slot => ?_)
  rw [List.getElem?_map, List.getElem?_map]
  rcases Nat.lt_or_ge slot listing.records.length with inside | outside
  · simp [List.getElem?_eq_getElem inside, List.getElem?_range inside]
  · simp [List.getElem?_eq_none outside,
      List.getElem?_eq_none (by simpa using outside : (List.range listing.records.length).length ≤ slot)]

theorem list_judges {number : Nat} (directory : backing.content.Directory volume.geometry number) :
    Judges (volume.list number) backing
      ((backing.content.listing? volume.geometry
        (backing.content.inode volume.geometry number)).map
          fun listing => listing.records.map DirEntry.ofRecord) := by
  rw [list, Option.map_eq_bind]
  refine Judges.bind_some (show Judges _ _ (some (backing.content.inode volume.geometry number))
    from ?_) ?_
  · have judges := volume.getInode_judges backing directory.live.inside
    rwa [Content.slot_of_live directory.live] at judges
  · rw [directory.isDirectory]
    refine (volume.readListing_judges backing _).bind fun listing found => ?_
    exact .of_ok (decodeAll_apply backing fun record => Content.length_of_mem_listing found)

end Volume

end ImageFs
