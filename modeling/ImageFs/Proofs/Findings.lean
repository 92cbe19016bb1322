import ImageFs.Proofs.Check
import ImageFs.Proofs.Verdict

/-!
What each part of the check has to say about the bytes of a file, whatever they are. Main statements:
the part finds nothing exactly when the slots, the cursor, the chains, the bitmap, the entries and the
links are as they should be.
-/

namespace ImageFs

namespace Content

variable (content : Content) (geometry : Geometry)

def liveNumbers (first count : Nat) : List Nat :=
  (List.range' first count).filter fun number => !(content.inode geometry number).isEmpty

/-- The live inodes among `count` slots from `first` on. -/
def liveFrom (first count : Nat) : Check.LiveInodes :=
  (content.liveNumbers geometry first count).map fun number =>
    (number, content.inode geometry number)

def liveInodes : Check.LiveInodes :=
  content.liveFrom geometry 0 geometry.inodeCount

variable {content geometry}

theorem mem_liveNumbers {number : Nat} :
    number ∈ content.liveNumbers geometry 0 geometry.inodeCount ↔ content.Live geometry number := by
  rw [liveNumbers, List.mem_filter, List.mem_range'_1]
  constructor
  · rintro ⟨inside, nonempty⟩
    exact ⟨by omega, by simpa using nonempty⟩
  · intro live
    exact ⟨⟨Nat.zero_le _, by have := live.inside; omega⟩, by simp [live.nonempty]⟩

theorem nodup_liveNumbers (first count : Nat) : (content.liveNumbers geometry first count).Nodup :=
  List.Nodup.filter _ (List.nodup_range' ..)

theorem mem_liveInodes {number : Nat} {inode : Inode} :
    (number, inode) ∈ content.liveInodes geometry ↔
      content.Live geometry number ∧ inode = content.inode geometry number := by
  rw [liveInodes, liveFrom, List.mem_map]
  constructor
  · rintro ⟨number', member, same⟩
    cases same
    exact ⟨mem_liveNumbers.mp member, rfl⟩
  · rintro ⟨live, rfl⟩
    exact ⟨number, mem_liveNumbers.mpr live, rfl⟩

/-- The entries of a directory, or none where they cannot be read. -/
def listed (content : Content) (geometry : Geometry) (directory : Nat) : List DirEntry :=
  ((content.listing? geometry (content.inode geometry directory)).map
    fun listing => listing.records.map DirEntry.ofRecord).getD []

theorem listing?_of_isChain {chain : Nat → List Nat} {directory : Nat}
    (isChain : content.IsChain geometry (content.inode geometry directory).firstBlock.toNat
      (chain directory))
    (whole : (content.inode geometry directory).size.toNat % recordLength = 0)
    (length : (chain directory).length =
      geometry.blocksFor (content.inode geometry directory).size.toNat) :
    (content.listing? geometry (content.inode geometry directory)).isSome ∧
      content.listed geometry directory = content.entries geometry chain directory := by
  have enough : (content.inode geometry directory).size.toNat ≤
      (chain directory).length * geometry.payloadSize := by
    rw [length]
    exact le_ceilDiv_mul geometry.payloadSize_pos _
  have found : content.listing? geometry (content.inode geometry directory) =
      some ⟨chain directory, content.records geometry (chain directory)
        (content.inode geometry directory).size.toNat⟩ :=
    listing?_eq_some.mpr ⟨whole, isChain, enough, rfl⟩
  rw [listed, found]
  exact ⟨rfl, rfl⟩

theorem SoundAlong.isSome_listing? {chain : Nat → List Nat}
    (sound : content.SoundAlong geometry chain) {directory : Nat}
    (isDirectory : content.Directory geometry directory) :
    (content.listing? geometry (content.inode geometry directory)).isSome :=
  (listing?_of_isChain (sound.chains.isChain directory isDirectory.live)
    (sound.directories.whole directory isDirectory)
    (sound.chains.length directory isDirectory.live)).1

theorem SoundAlong.listed_eq_entries {chain : Nat → List Nat}
    (sound : content.SoundAlong geometry chain) {directory : Nat}
    (isDirectory : content.Directory geometry directory) :
    content.listed geometry directory = content.entries geometry chain directory :=
  (listing?_of_isChain (sound.chains.isChain directory isDirectory.live)
    (sound.directories.whole directory isDirectory)
    (sound.chains.length directory isDirectory.live)).2

theorem map_fst_liveInodes :
    (content.liveInodes geometry).map Prod.fst =
      content.liveNumbers geometry 0 geometry.inodeCount := by
  rw [liveInodes, liveFrom, List.map_map]
  exact List.map_id _

variable (content geometry) in
def directories : List Nat :=
  ((content.liveInodes geometry).filter (·.2.isDirectory)).map Prod.fst

theorem mem_directories {number : Nat} :
    number ∈ content.directories geometry ↔ content.Directory geometry number := by
  simp only [directories, List.mem_map, List.mem_filter, Prod.exists, mem_liveInodes]
  constructor
  · rintro ⟨_, _, ⟨⟨live, rfl⟩, isDirectory⟩, rfl⟩
    exact ⟨live, isDirectory⟩
  · rintro ⟨live, isDirectory⟩
    exact ⟨_, _, ⟨⟨live, rfl⟩, isDirectory⟩, rfl⟩

theorem nodup_directories : (content.directories geometry).Nodup := by
  have nodup := @nodup_liveNumbers content geometry 0 geometry.inodeCount
  rw [← map_fst_liveInodes] at nodup
  exact nodup.sublist (List.filter_sublist.map _)

end Content

/-! Slots and the cursor -/

namespace Check

theorem find?_map (inode : Nat → Inode) (numbers : List Nat) (number : Nat) :
    find? (numbers.map fun number => (number, inode number)) number =
      if number ∈ numbers then some (inode number) else none := by
  induction numbers with
  | nil => rfl
  | cons head rest induction =>
      rw [find?] at induction ⊢
      rw [List.map_cons, List.lookup_cons, induction]
      by_cases same : number = head
      · subst same
        simp
      · rw [beq_false_of_ne same]
        simp [same]

variable {content : Content} {geometry : Geometry}

theorem find?_liveInodes {number : Nat} {inode : Inode} :
    find? (content.liveInodes geometry) number = some inode ↔
      content.Live geometry number ∧ content.inode geometry number = inode := by
  rw [Content.liveInodes, Content.liveFrom, find?_map]
  split
  · next member => simp [Content.mem_liveNumbers.mp member]
  · next notMember => simp [mt Content.mem_liveNumbers.mpr notMember]

theorem isSome_find?_liveInodes {number : Nat} :
    (find? (content.liveInodes geometry) number).isSome ↔ content.Live geometry number := by
  rw [Option.isSome_iff_exists]
  constructor
  · rintro ⟨inode, found⟩
    exact (find?_liveInodes.mp found).1
  · intro live
    exact ⟨_, find?_liveInodes.mpr ⟨live, rfl⟩⟩

/-- The slot can be read, and it is not empty if it is one of those that never are. -/
structure GoodSlot (content : Content) (geometry : Geometry) (number : Nat) : Prop where
  parsed : ∃ inode, content.slot geometry number = .ok inode
  reserved : InodeNumber.isReserved number = true →
    (content.inode geometry number).isEmpty = false

theorem scanFrom_ok {volume : Volume} {backing : Backing} {first count : Nat}
    {inodes : LiveInodes} {findings : List Finding}
    (inside : first + count ≤ volume.geometry.inodeCount)
    (ends : scanFrom volume count first backing = .ok (inodes, findings)) :
    inodes = backing.content.liveFrom volume.geometry first count ∧
      (findings = [] ↔
        ∀ number ∈ List.range' first count, GoodSlot backing.content volume.geometry number) ∧
      ∀ number ∈ List.range' first count,
        ∃ outcome, (volume.getInode number).damageOr backing = .ok outcome := by
  induction count generalizing first inodes findings with
  | zero =>
      cases ends
      exact ⟨rfl, by simp, by simp⟩
  | succ count induction =>
      obtain ⟨outcome, found, ends⟩ := Query.exists_of_bind_ok ends
      obtain ⟨⟨inodes', findings'⟩, scanned, ends⟩ := Query.exists_of_bind_ok ends
      obtain ⟨isInodes, isClean, reads⟩ := @induction (first + 1) _ _ (by omega) scanned
      have verdict := (volume.getInode_judges backing (by omega)).damageOr found
      have isInode : backing.content.inode volume.geometry first =
          outcome.toOption.getD .empty := by rw [Content.inode, verdict]
      have reads' : ∀ number ∈ List.range' first (count + 1),
          ∃ outcome, (volume.getInode number).damageOr backing = .ok outcome := by
        rw [List.range'_succ, List.forall_mem_cons]
        exact ⟨⟨outcome, found⟩, reads⟩
      rw [Content.liveFrom, Content.liveNumbers, List.range'_succ, List.filter_cons,
        List.forall_mem_cons, ← isClean]
      cases outcome with
      | error damage =>
          cases ends
          have unreadable : ¬ GoodSlot backing.content volume.geometry first := by
            rintro ⟨⟨inode, parsed⟩, -⟩
            rw [parsed] at verdict
            cases verdict
          rw [isInode]
          exact ⟨isInodes, by simp [unreadable], reads'⟩
      | ok inode =>
          have parsed : backing.content.slot volume.geometry first = .ok inode := by
            cases slot : backing.content.slot volume.geometry first with
            | ok inode' =>
                rw [slot] at verdict
                exact congrArg _ (Option.some.inj verdict)
            | error error =>
                rw [slot] at verdict
                cases verdict
          have isInode : backing.content.inode volume.geometry first = inode := isInode
          dsimp only at ends
          split at ends
          · next nonempty =>
            cases ends
            have good : GoodSlot backing.content volume.geometry first :=
              ⟨⟨inode, parsed⟩, fun _ => by rw [isInode]; simpa using nonempty⟩
            rw [isInode, if_pos nonempty]
            exact ⟨by rw [List.map_cons, isInode, isInodes]; rfl, by simp [good], reads'⟩
          · next vacant =>
            rw [isInode, if_neg vacant]
            split at ends
            · next reserved =>
              cases ends
              have bad : ¬ GoodSlot backing.content volume.geometry first := fun good =>
                vacant (by rw [← isInode, good.reserved reserved]; rfl)
              exact ⟨isInodes, by simp [bad], reads'⟩
            · next free =>
              cases ends
              have good : GoodSlot backing.content volume.geometry first :=
                ⟨⟨inode, parsed⟩, fun reserved => absurd reserved free⟩
              exact ⟨isInodes, by simp [good], reads'⟩

theorem lowestVacant_eq_some {inodes : LiveInodes} {count first lowest : Nat}
    (found : lowestVacant inodes count first = some lowest) :
    first ≤ lowest ∧ lowest < first + count ∧ (find? inodes lowest).isSome = false ∧
      ∀ number, first ≤ number → number < lowest → (find? inodes number).isSome := by
  induction count generalizing first with
  | zero => cases found
  | succ count induction =>
      rw [lowestVacant] at found
      split at found
      · next live =>
        obtain ⟨behind, before, vacant, below⟩ := induction found
        refine ⟨by omega, by omega, vacant, fun number later early => ?_⟩
        rcases Nat.eq_or_lt_of_le later with rfl | later
        · exact live
        · exact below number later early
      · next vacant =>
        cases found
        exact ⟨Nat.le_refl _, by omega, by simpa using vacant, fun number later early => by omega⟩

theorem lowestVacant_eq_none {inodes : LiveInodes} {count first : Nat}
    (full : lowestVacant inodes count first = none) (number : Nat) (behind : first ≤ number)
    (before : number < first + count) : (find? inodes number).isSome := by
  induction count generalizing first with
  | zero => omega
  | succ count induction =>
      rw [lowestVacant] at full
      split at full
      · next live =>
        rcases Nat.eq_or_lt_of_le behind with rfl | later
        · exact live
        · exact induction full later (by omega)
      · cases full

theorem checkCursor_nil_iff (cursor : Nat) :
    checkCursor geometry (content.liveInodes geometry) cursor = [] ↔
      content.CursorAtLowest geometry cursor := by
  have table := geometry.four_le_inodeCount
  have start : InodeNumber.firstFree = 2 := rfl
  rw [checkCursor]
  cases search : lowestVacant (content.liveInodes geometry)
      (geometry.inodeCount - InodeNumber.firstFree) InodeNumber.firstFree with
  | some lowest =>
      obtain ⟨behind, before, vacant, below⟩ := lowestVacant_eq_some search
      have vacant : ¬ content.Live geometry lowest := by
        rw [← isSome_find?_liveInodes, vacant]
        exact Bool.false_ne_true
      simp only [ite_eq_left_iff, reduceCtorEq, imp_false, not_not]
      constructor
      · rintro rfl
        refine ⟨fun number usable _ early => ?_, fun _ => ⟨behind, by omega, vacant⟩⟩
        exact isSome_find?_liveInodes.mp (below number usable (by omega))
      · rintro ⟨live, isVacant⟩
        have nonzero : cursor ≠ 0 := fun zero =>
          vacant (live lowest behind (by omega) (.inl zero))
        obtain ⟨usable, inside, vacant'⟩ := isVacant nonzero
        rcases Nat.lt_trichotomy cursor lowest with less | equal | greater
        · exact absurd (isSome_find?_liveInodes.mp (below cursor usable less)) vacant'
        · exact equal
        · exact absurd (live lowest behind (by omega) (.inr greater)) vacant
  | none =>
      have live : ∀ number, InodeNumber.firstFree ≤ number → number < geometry.inodeCount →
          content.Live geometry number := fun number usable inside =>
        isSome_find?_liveInodes.mp (lowestVacant_eq_none search number usable (by omega))
      simp only [ite_eq_left_iff, reduceCtorEq, imp_false, not_not]
      constructor
      · rintro rfl
        exact ⟨fun number usable inside _ => live number usable inside, fun nonzero => absurd rfl nonzero⟩
      · rintro ⟨-, isVacant⟩
        by_contra nonzero
        obtain ⟨usable, inside, vacant⟩ := isVacant nonzero
        exact vacant (live cursor usable inside)

/-! Chains -/

theorem claimBlocks_owners (geometry : Geometry) (bitmap : Bytes) (number : Nat)
    (blocks : List Nat) (owners : Owners) :
    (claimBlocks geometry bitmap number blocks owners).1 =
      blocks.reverse.map (·, number) ++ owners := by
  induction blocks generalizing owners with
  | nil => rfl
  | cons block rest induction =>
      rw [claimBlocks]
      dsimp only
      rw [induction]
      simp

theorem claimBlocks_nil_iff {geometry : Geometry} {bitmap : Bytes} {number : Nat}
    {blocks : List Nat} {owners : Owners} (nodup : blocks.Nodup) :
    (claimBlocks geometry bitmap number blocks owners).2 = [] ↔
      ∀ block ∈ blocks, Bitmap.get bitmap (block - geometry.dataStart) = true ∧
        owners.lookup block = none := by
  induction blocks generalizing owners with
  | nil => simp [claimBlocks]
  | cons block rest induction =>
      obtain ⟨notMem, nodup'⟩ := List.nodup_cons.mp nodup
      have others : ∀ other ∈ rest,
          List.lookup other ((block, number) :: owners) = owners.lookup other := by
        intro other member
        rw [List.lookup_cons, beq_false_of_ne (ne_of_mem_of_not_mem member notMem)]
      rw [claimBlocks, List.forall_mem_cons]
      dsimp only
      rw [List.append_eq_nil_iff, List.append_eq_nil_iff, induction nodup']
      refine and_congr (and_congr ?_ ?_) ?_
      · cases Bitmap.get bitmap (block - geometry.dataStart) <;> simp
      · cases owners.lookup block <;> simp
      · exact forall₂_congr fun other member => by rw [others other member]

/-- The last of the nodes whose chains have a block owns it. -/
theorem lookup_ownersAfter_eq (chain : Nat → List Nat) (nodes : List Nat) (owners : Owners)
    (block : Nat) :
    (ownersAfter chain nodes owners).lookup block =
      (nodes.reverse.find? fun node => decide (block ∈ chain node)).or (owners.lookup block) := by
  induction nodes generalizing owners with
  | nil => rfl
  | cons node rest induction =>
      rw [ownersAfter, induction, lookup_claimed, List.reverse_cons, List.find?_append,
        Option.or_assoc]
      congr 1
      by_cases member : block ∈ chain node <;> simp [member]

theorem exists_of_lookup_ownersAfter {chain : Nat → List Nat} {nodes : List Nat} {block node : Nat}
    (owned : (ownersAfter chain nodes []).lookup block = some node) :
    node ∈ nodes ∧ block ∈ chain node := by
  rw [lookup_ownersAfter_eq, List.lookup_nil, Option.or_none] at owned
  exact ⟨List.mem_reverse.mp (List.mem_of_find?_eq_some owned),
    by simpa using List.find?_some owned⟩

theorem isSome_lookup_ownersAfter {chain : Nat → List Nat} {nodes : List Nat} {block : Nat} :
    ((ownersAfter chain nodes []).lookup block).isSome ↔ ∃ node ∈ nodes, block ∈ chain node := by
  rw [lookup_ownersAfter_eq, List.lookup_nil, Option.or_none, List.find?_isSome]
  simp

/-- The chain of an inode is whole, long enough and marked. -/
structure GoodChain (content : Content) (geometry : Geometry) (blocks : List Nat) (inode : Inode) :
    Prop where
  isChain : content.IsChain geometry inode.firstBlock.toNat blocks
  length : blocks.length = geometry.blocksFor inode.size.toNat
  marked : ∀ block ∈ blocks,
    Bitmap.get (content.bitmap geometry) (block - geometry.dataStart) = true

theorem checkChains_ok {volume : Volume} {backing : Backing} {chain : Nat → List Nat}
    {inodes : LiveInodes} {owners owners' : Owners} {findings : List Finding}
    (isChain : ∀ number inode, (number, inode) ∈ inodes → chain number =
      (backing.content.chain? volume.geometry inode.firstBlock.toNat).getD [])
    (ends : checkChains volume (backing.content.bitmap volume.geometry) inodes owners backing =
      .ok (owners', findings)) :
    owners' = ownersAfter chain (inodes.map Prod.fst) owners ∧
      (findings = [] ↔
        (∀ node ∈ inodes, GoodChain backing.content volume.geometry (chain node.1) node.2) ∧
        (∀ node ∈ inodes, ∀ block ∈ chain node.1, owners.lookup block = none) ∧
        inodes.Pairwise fun first second => ∀ block ∈ chain first.1, block ∉ chain second.1) := by
  induction inodes generalizing owners owners' findings with
  | nil =>
      cases ends
      simp [ownersAfter]
  | cons node rest induction =>
      obtain ⟨number, inode⟩ := node
      have others := fun number inode member => isChain number inode (List.mem_cons_of_mem _ member)
      have here := isChain number inode List.mem_cons_self
      obtain ⟨outcome, found, ends⟩ := Query.exists_of_bind_ok ends
      have verdict := (volume.chain_judges backing _).damageOr found
      rw [verdict] at here
      rw [List.map_cons, ownersAfter, List.forall_mem_cons, List.forall_mem_cons,
        List.pairwise_cons]
      cases outcome with
      | error damage =>
          obtain ⟨⟨owners'', findings'⟩, checked, ends⟩ := Query.exists_of_bind_ok ends
          obtain ⟨isOwners, -⟩ := induction others checked
          cases ends
          have empty : chain number = [] := here
          have broken : ¬ GoodChain backing.content volume.geometry (chain number) inode := by
            intro good
            rw [Content.chain?_eq_some.mpr good.isChain] at verdict
            cases verdict
          refine ⟨by rw [isOwners, empty]; rfl, by simp [broken]⟩
      | ok blocks =>
          obtain ⟨⟨owners'', findings'⟩, checked, ends⟩ := Query.exists_of_bind_ok ends
          obtain rfl : chain number = blocks := here
          have walked := Content.chain?_eq_some.mp verdict
          have claimed : (claimBlocks volume.geometry (backing.content.bitmap volume.geometry) number
              (chain number) owners).1 = _ := claimBlocks_owners ..
          rw [claimed] at checked
          obtain ⟨isOwners, isClean⟩ := induction others checked
          cases ends
          refine ⟨isOwners, ?_⟩
          have unclaimed : (∀ node ∈ rest, ∀ block ∈ chain node.1,
              ((chain number).reverse.map (·, number) ++ owners).lookup block = none) ↔
                (∀ node ∈ rest, ∀ block ∈ chain number, block ∉ chain node.1) ∧
                ∀ node ∈ rest, ∀ block ∈ chain node.1, owners.lookup block = none := by
            simp only [lookup_claimed]
            constructor
            · intro free
              refine ⟨fun node member block inHere inNode => ?_, fun node member block inNode => ?_⟩
              · have := free node member block inNode
                rw [if_pos inHere] at this
                cases this
              · have := free node member block inNode
                split at this
                · cases this
                · exact this
            · rintro ⟨apart, free⟩ node member block inNode
              rw [if_neg fun inHere => apart node member block inHere inNode]
              exact free node member block inNode
          have fits : (if (chain number).length = volume.geometry.blocksFor inode.size.toNat then []
              else [Finding.chainLength number inode.size.toNat
                (volume.geometry.blocksFor inode.size.toNat) (chain number).length]) = [] ↔
              (chain number).length = volume.geometry.blocksFor inode.size.toNat := by simp
          rw [List.append_eq_nil_iff, List.append_eq_nil_iff, isClean, unclaimed, fits,
            claimBlocks_nil_iff walked.nodup]
          constructor
          · rintro ⟨⟨length, claims⟩, goods, ⟨apart, free⟩, pairwise⟩
            exact ⟨⟨⟨walked, length, fun block member => (claims block member).1⟩, goods⟩,
              ⟨fun block member => (claims block member).2, free⟩, apart, pairwise⟩
          · rintro ⟨⟨good, goods⟩, ⟨freeHere, free⟩, apart, pairwise⟩
            exact ⟨⟨good.length, fun block member => ⟨good.marked block member,
              freeHere block member⟩⟩, goods, ⟨apart, free⟩, pairwise⟩

theorem unreachable_nil_iff {bitmap : Bytes} {owners : Owners} :
    unreachable geometry bitmap owners = [] ↔ ∀ bit, FirstFit.firstUsable ≤ bit →
      bit < geometry.blocks → Bitmap.get bitmap bit = true →
        (owners.lookup (geometry.blockOfBit bit)).isSome := by
  rw [unreachable, List.map_eq_nil_iff, List.filter_eq_nil_iff]
  constructor
  · intro reached bit usable inside marked
    have := reached bit (List.mem_range.mpr inside)
    simpa [usable, marked, Option.isSome_iff_ne_none] using this
  · intro reached bit member
    simp only [Bool.and_eq_true, decide_eq_true_eq, not_and, and_imp, Option.isNone_iff_eq_none]
    intro usable marked
    exact Option.isSome_iff_ne_none.mp (reached bit usable (List.mem_range.mp member) marked)

/-! Directories -/

/-- An entry of a directory links to a live inode of its name that may be linked. -/
structure GoodEntry (content : Content) (geometry : Geometry) (entry : DirEntry) : Prop where
  usable : InodeNumber.firstFree ≤ entry.inode.toNat
  live : content.Live geometry entry.inode.toNat
  name : (content.inode geometry entry.inode.toNat).name = entry.name

theorem goodEntry_iff {entry : DirEntry} : GoodEntry content geometry entry ↔
    InodeNumber.firstFree ≤ entry.inode.toNat ∧ entry.inode.toNat < geometry.inodeCount ∧
      (content.inode geometry entry.inode.toNat).isEmpty = false ∧
      (content.inode geometry entry.inode.toNat).name = entry.name :=
  ⟨fun good => ⟨good.usable, good.live.inside, good.live.nonempty, good.name⟩,
    fun ⟨usable, inside, nonempty, name⟩ => ⟨usable, ⟨inside, nonempty⟩, name⟩⟩

instance (entry : DirEntry) : Decidable (GoodEntry content geometry entry) :=
  decidable_of_iff' _ goodEntry_iff

theorem fault?_eq_none_iff {directory : Nat} {entry : DirEntry} :
    fault? (content.liveInodes geometry) directory entry = none ↔
      GoodEntry content geometry entry := by
  rw [fault?]
  split
  · next reserved =>
    refine iff_of_false (by simp) fun good => ?_
    exact Nat.not_lt.mpr good.usable (of_decide_eq_true reserved)
  · next free =>
    have usable : InodeNumber.firstFree ≤ entry.inode.toNat := by
      simpa [InodeNumber.isReserved] using free
    split
    · next vacant =>
      refine iff_of_false (by simp) fun good => ?_
      rw [find?_liveInodes.mpr ⟨good.live, rfl⟩] at vacant
      cases vacant
    · next target found =>
      obtain ⟨live, isTarget⟩ := find?_liveInodes.mp found
      split
      · next misnamed =>
        exact iff_of_false (by simp) fun good => misnamed (isTarget ▸ good.name)
      · next named => exact iff_of_true rfl ⟨usable, live, isTarget ▸ not_not.mp named⟩

theorem entryFindings_nil_iff {directory : Nat} {entries : List DirEntry} {names : List String} :
    entryFindings (content.liveInodes geometry) directory entries names = [] ↔
      (∀ entry ∈ entries, GoodEntry content geometry entry) ∧
      (∀ entry ∈ entries, entry.name ∉ names) ∧ (entries.map DirEntry.name).Nodup := by
  induction entries generalizing names with
  | nil => simp [entryFindings]
  | cons entry rest induction =>
      have new : (∀ other ∈ rest, other.name ∉ entry.name :: names) ↔
          entry.name ∉ rest.map DirEntry.name ∧ ∀ other ∈ rest, other.name ∉ names := by
        simp only [List.mem_cons, not_or, List.mem_map, not_exists, not_and]
        constructor
        · intro apart
          exact ⟨fun other member => (apart other member).1, fun other member =>
            (apart other member).2⟩
        · rintro ⟨apart, free⟩ other member
          exact ⟨apart other member, free other member⟩
      have fresh : (if names.contains entry.name then
          [Finding.duplicateName directory entry.name] else []) = [] ↔ entry.name ∉ names := by simp
      have good : (fault? (content.liveInodes geometry) directory entry).toList = [] ↔
          GoodEntry content geometry entry := by
        rw [Option.toList_eq_nil_iff, fault?_eq_none_iff]
      rw [List.forall_mem_cons, List.forall_mem_cons, List.map_cons, List.nodup_cons, entryFindings,
        List.append_eq_nil_iff, List.append_eq_nil_iff, fresh, good, induction, new]
      constructor
      · rintro ⟨⟨isNew, here⟩, goods, ⟨apart, news⟩, distinct⟩
        exact ⟨⟨here, goods⟩, ⟨isNew, news⟩, apart, distinct⟩
      · rintro ⟨⟨here, goods⟩, ⟨isNew, news⟩, apart, distinct⟩
        exact ⟨⟨isNew, here⟩, goods, ⟨apart, news⟩, distinct⟩

end Check

/-! Links -/

namespace Content

variable (content : Content) (geometry : Geometry)

/-- The inodes that the entries of a directory link to which are in order. -/
def linksIn (directory : Nat) : List Nat :=
  ((content.listed geometry directory).filter fun entry =>
    decide (Check.GoodEntry content geometry entry)).map fun entry => entry.inode.toNat

/-- The links in order in the directories among nodes. -/
def linksAmong (nodes : Check.LiveInodes) : List Nat :=
  ((nodes.filter (·.2.isDirectory)).map Prod.fst).flatMap (content.linksIn geometry)

/-- How often an inode is linked by entries that are in order. -/
def linkCount (number : Nat) : Nat :=
  (content.linksAmong geometry (content.liveInodes geometry)).count number

variable {content geometry}

theorem linkedBy_eq_linksIn {directory : Nat} {entries : List DirEntry}
    (isListed : content.listed geometry directory = entries) :
    Check.linkedBy (content.liveInodes geometry) directory entries =
      content.linksIn geometry directory := by
  rw [Check.linkedBy, linksIn, isListed]
  refine congrArg _ (List.filter_congr fun entry _ => ?_)
  rw [Bool.eq_iff_iff, Option.isNone_iff_eq_none, decide_eq_true_eq, Check.fault?_eq_none_iff]

theorem linksAmong_cons_of_directory {number : Nat} {inode : Inode} {rest : Check.LiveInodes}
    (isDirectory : inode.isDirectory = true) :
    content.linksAmong geometry ((number, inode) :: rest) =
      content.linksIn geometry number ++ content.linksAmong geometry rest := by
  rw [linksAmong, List.filter_cons, if_pos isDirectory, List.map_cons, List.flatMap_cons]
  rfl

theorem linksAmong_cons_of_not_directory {number : Nat} {inode : Inode} {rest : Check.LiveInodes}
    (isFile : inode.isDirectory = false) :
    content.linksAmong geometry ((number, inode) :: rest) = content.linksAmong geometry rest := by
  rw [linksAmong, List.filter_cons, if_neg (by simp [isFile])]
  rfl

end Content

/-! Directories and the links in them -/

namespace Check

variable {content : Content} {geometry : Geometry}

/-- A directory can be read, and its entries are in order and distinct. -/
structure GoodDirectory (content : Content) (geometry : Geometry) (directory : Nat) : Prop where
  readable : (content.listing? geometry (content.inode geometry directory)).isSome
  entries : ∀ entry ∈ content.listed geometry directory, GoodEntry content geometry entry
  distinct : ((content.listed geometry directory).map DirEntry.name).Nodup

section Directories

variable {volume : Volume} {backing : Backing} {overflow : Overflow} {nodes : LiveInodes}
  {links : LinkCounts}
  (live : ∀ node ∈ nodes, backing.content.Live volume.geometry node.1 ∧
    node.2 = backing.content.inode volume.geometry node.1)

include live

theorem checkDirectories_ok {links' : LinkCounts} {findings : List Finding}
    (ends : checkDirectories overflow volume (backing.content.liveInodes volume.geometry) nodes links
      backing = .ok (links', findings)) :
    (findings = [] ↔ ∀ node ∈ nodes, node.2.isDirectory = true →
      GoodDirectory backing.content volume.geometry node.1) ∧
    links' = addLinks links (backing.content.linksAmong volume.geometry nodes) ∧
    Room overflow links (backing.content.linksAmong volume.geometry nodes) ∧
    ∀ node ∈ nodes, node.2.isDirectory = true →
      ∃ outcome, (volume.list node.1).damageOr backing = .ok outcome := by
  induction nodes generalizing links links' findings with
  | nil =>
      cases ends
      exact ⟨by simp, rfl, room_of_no_links, by simp⟩
  | cons node rest induction =>
      obtain ⟨number, inode⟩ := node
      obtain ⟨liveHere, isInode⟩ := live _ List.mem_cons_self
      have others := fun node member => live node (List.mem_cons_of_mem _ member)
      rw [checkDirectories] at ends
      rw [List.forall_mem_cons, List.forall_mem_cons]
      dsimp only at isInode liveHere ⊢
      cases isDirectory : inode.isDirectory with
      | false =>
          rw [isDirectory] at ends
          obtain ⟨isClean, isLinks, room, reads⟩ := induction others ends
          rw [Content.linksAmong_cons_of_not_directory isDirectory]
          exact ⟨by simpa using isClean, isLinks, room, by simp, reads⟩
      | true =>
          rw [isDirectory] at ends
          rw [Content.linksAmong_cons_of_directory isDirectory, addLinks_append, room_append]
          obtain ⟨outcome, found, ends⟩ := Query.exists_of_bind_ok ends
          have directory : backing.content.Directory volume.geometry number :=
            ⟨liveHere, isInode ▸ isDirectory⟩
          have verdict := (volume.list_judges backing directory).damageOr found
          cases outcome with
          | error damage =>
              obtain ⟨⟨links'', findings'⟩, checked, ends⟩ := Query.exists_of_bind_ok ends
              obtain ⟨-, isLinks, room, reads⟩ := induction others checked
              cases ends
              have none := Option.map_eq_none_iff.mp verdict
              have broken : ¬ GoodDirectory backing.content volume.geometry number := by
                intro good
                have readable := good.readable
                rw [none] at readable
                cases readable
              have empty : backing.content.linksIn volume.geometry number = [] := by
                rw [Content.linksIn, Content.listed, none]
                rfl
              rw [empty]
              exact ⟨by simp [broken], isLinks, ⟨room_of_no_links, room⟩, fun _ => ⟨_, found⟩, reads⟩
          | ok entries =>
              have isListed : backing.content.listed volume.geometry number = entries := by
                rw [Content.listed, verdict]
                rfl
              obtain ⟨⟨between, judged⟩, judging, ends⟩ := Query.exists_of_bind_ok ends
              obtain ⟨roomHere, isBetween, isJudged⟩ := checkEntries_ok judging
              rw [Content.linkedBy_eq_linksIn isListed] at roomHere isBetween
              subst isBetween
              obtain ⟨⟨links'', findings'⟩, checked, ends⟩ := Query.exists_of_bind_ok ends
              obtain ⟨isClean, isLinks, room, reads⟩ := induction others checked
              have good : judged = [] ↔ GoodDirectory backing.content volume.geometry number := by
                rw [isJudged, entryFindings_nil_iff]
                constructor
                · rintro ⟨goods, -, distinct⟩
                  exact ⟨by rw [← Option.isSome_map, verdict]; rfl, isListed ▸ goods,
                    isListed ▸ distinct⟩
                · rintro ⟨-, goods, distinct⟩
                  exact ⟨isListed ▸ goods, fun _ _ member => (by cases member),
                    isListed ▸ distinct⟩
              cases ends
              refine ⟨?_, isLinks, ⟨roomHere, room⟩, fun _ => ⟨_, found⟩, reads⟩
              rw [List.append_eq_nil_iff, good, isClean]
              simp

/-- What stops the check of directories: reading one of them, or a counter at its end. -/
theorem checkDirectories_error {halt : Halt}
    (ends : checkDirectories overflow volume (backing.content.liveInodes volume.geometry) nodes links
      backing = .error halt) :
    (∃ node ∈ nodes, node.2.isDirectory = true ∧
      (volume.list node.1).damageOr backing = .error halt) ∨
    Full overflow links (backing.content.linksAmong volume.geometry nodes) halt := by
  induction nodes generalizing links with
  | nil => cases ends
  | cons node rest induction =>
      obtain ⟨number, inode⟩ := node
      obtain ⟨liveHere, isInode⟩ := live _ List.mem_cons_self
      have others {links' : LinkCounts}
          (ends' : checkDirectories overflow volume (backing.content.liveInodes volume.geometry)
            rest links' backing = .error halt) := induction
        (fun node member => live node (List.mem_cons_of_mem _ member)) ends'
      rw [checkDirectories] at ends
      dsimp only at isInode liveHere
      cases isDirectory : inode.isDirectory with
      | false =>
          rw [isDirectory] at ends
          rw [Content.linksAmong_cons_of_not_directory isDirectory]
          exact (others ends).imp_left fun ⟨node, member, facts⟩ => ⟨node, .tail _ member, facts⟩
      | true =>
          rw [isDirectory] at ends
          rw [Content.linksAmong_cons_of_directory isDirectory]
          cases found : (volume.list number).damageOr backing with
          | error halt' =>
              cases (Query.bind_error found).symm.trans ends
              exact .inl ⟨_, List.mem_cons_self, isDirectory, found⟩
          | ok outcome =>
              replace ends := (Query.bind_ok found).symm.trans ends
              have directory : backing.content.Directory volume.geometry number :=
                ⟨liveHere, isInode ▸ isDirectory⟩
              have verdict := (volume.list_judges backing directory).damageOr found
              cases outcome with
              | error damage =>
                  have empty : backing.content.linksIn volume.geometry number = [] := by
                    rw [Content.linksIn, Content.listed, Option.map_eq_none_iff.mp verdict]
                    rfl
                  rw [empty]
                  exact (others (Query.error_of_bind_pure ends)).imp_left
                    fun ⟨node, member, facts⟩ => ⟨node, .tail _ member, facts⟩
              | ok entries =>
                  have isListed : backing.content.listed volume.geometry number = entries := by
                    rw [Content.listed, verdict]
                    rfl
                  rw [← Content.linkedBy_eq_linksIn isListed]
                  cases judging : checkEntries overflow
                      (backing.content.liveInodes volume.geometry) number entries [] links backing with
                  | error halt' =>
                      cases (Query.bind_error judging).symm.trans ends
                      exact .inr (checkEntries_error judging).append_left
                  | ok judged =>
                      obtain ⟨between, findings⟩ := judged
                      obtain ⟨-, rfl, -⟩ := checkEntries_ok judging
                      replace ends := (Query.bind_ok judging).symm.trans ends
                      refine (others (Query.error_of_bind_pure ends)).imp ?_ Full.append_right
                      exact fun ⟨node, member, facts⟩ => ⟨node, .tail _ member, facts⟩

end Directories

theorem checkLinks_nil_iff {links : LinkCounts} :
    checkLinks (content.liveInodes geometry) links = [] ↔
      ∀ number, InodeNumber.firstFree ≤ number → content.Live geometry number →
        (linkCount links number).toNat = 1 := by
  rw [checkLinks, List.map_eq_nil_iff, List.filter_eq_nil_iff]
  have one (number : Nat) : linkCount links number = 1 ↔ (linkCount links number).toNat = 1 :=
    UInt32.toNat_inj.symm
  constructor
  · intro linked number usable live
    have := linked (number, content.inode geometry number) (Content.mem_liveInodes.mpr ⟨live, rfl⟩)
    rw [← one]
    simpa [InodeNumber.isReserved, usable] using this
  · rintro linked ⟨number, inode⟩ member
    have live := (Content.mem_liveInodes.mp member).1
    by_cases usable : InodeNumber.firstFree ≤ number
    · simp [(one number).mpr (linked number usable live)]
    · simp [InodeNumber.isReserved, Nat.lt_of_not_le usable]

end Check

end ImageFs
