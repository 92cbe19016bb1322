import ImageFs.Proofs.Emptyings

/-!
Taking a new node out again. The tree and the chains of its nodes determine the file but for the
cursor of the blocks, the bits behind the last block and the blocks that are free. Main statement:
removing what has just been created leaves the file as it was before, but for that cursor, the
generation of the slot and the blocks that are free before and after.
-/

namespace ImageFs

open Function (update)

variable {geometry : Geometry} {volume : Volume} {first second before : Disk} {tree : Tree}
  {chain : Nat → List Nat}

/-! What the tree determines -/

/-- The data blocks whose bit is clear. -/
def Disk.IsFree (disk : Disk) (geometry : Geometry) (block : Nat) : Prop :=
  geometry.IsData block ∧ Bitmap.get disk.bitmap (block - geometry.dataStart) = false

theorem Disk.isFree_congr (same : second.bitmap = first.bitmap) (block : Nat) :
    second.IsFree geometry block ↔ first.IsFree geometry block := by
  rw [IsFree, IsFree, same]

theorem Ledger.exists_of_not_free (ledger : Ledger geometry first chain) {block : Nat}
    (isData : geometry.IsData block) (taken : ¬ first.IsFree geometry block) :
    ∃ inode, block ∈ chain inode := by
  have set : Bitmap.get first.bitmap (block - geometry.dataStart) = true := by
    rw [← Bool.not_eq_false]
    exact fun clear => taken ⟨isData, clear⟩
  obtain ⟨inode, member⟩ := (ledger.marked _ (geometry.bit_lt_of_isData isData)).mp set
  rw [geometry.blockOfBit_sub isData] at member
  exact ⟨inode, member⟩

theorem Ledger.bitmap_eq (ledger : Ledger geometry first chain)
    (ledger' : Ledger geometry second chain)
    (spare : Bitmap.SameFrom geometry.blocks first.bitmap second.bitmap) :
    second.bitmap = first.bitmap := by
  apply spare.eq (ledger'.bitmap.trans ledger.bitmap.symm)
  intro bit inside
  rw [ledger'.marked bit inside, ledger.marked bit inside]

theorem Stored.payload_eq (stored : Stored geometry first tree chain)
    (stored' : Stored geometry second tree chain) {inode block : Nat}
    (member : block ∈ chain inode) : second.payload block = first.payload block := by
  have lengths {disk : Disk} (ledger : Ledger geometry disk chain) :
      ∀ block ∈ chain inode, (disk.payload block).length = geometry.payloadSize :=
    fun block member => ledger.lengths block (ledger.isData inode block member)
  have streams : second.stream (chain inode) = first.stream (chain inode) := by
    rw [stored'.stream, stored.stream]
  exact Disk.payload_of_stream (lengths stored.ledger) (lengths stored'.ledger) streams block member

namespace Represents

/-- Disks that stand for one tree with the same chains agree on all areas that are in use. -/
theorem agreeOn (represents : Represents geometry first tree chain)
    (represents' : Represents geometry second tree chain)
    (spare : Bitmap.SameFrom geometry.blocks first.bitmap second.bitmap) {area : Area}
    (valid : area.Valid geometry) (notCursor : area ≠ .counter .nextFreeBlock)
    (taken : ∀ block, Area.InBlock geometry block area → ¬ first.IsFree geometry block) :
    Disk.AgreeOn second first area := by
  have ledger := represents.stored.ledger
  have ledger' := represents'.stored.ledger
  have bitmap := ledger.bitmap_eq ledger' spare
  cases area with
  | counter which =>
      cases which with
      | freeBlocks =>
          change second.counter .freeBlocks = first.counter .freeBlocks
          rw [ledger'.free, ledger.free, bitmap]
      | nextFreeBlock => exact absurd rfl notCursor
      | nextFreeInode => exact represents'.slotCursor.trans represents.slotCursor.symm
  | bitmap => exact bitmap
  | holders => exact True.intro
  | record inode =>
      exact (represents'.stored.record inode valid).trans (represents.stored.record inode valid).symm
  | payload block =>
      obtain ⟨inode, member⟩ := ledger.exists_of_not_free valid (taken block (.payload block))
      exact represents.stored.payload_eq represents'.stored member
  | link block =>
      obtain ⟨inode, member⟩ := ledger.exists_of_not_free valid (taken block (.link block))
      exact (ledger.linked inode).eq (ledger'.linked inode) member

/-- Files that stand for one tree with the same chains have the same bytes where they are in use. -/
theorem byte_eq {content content' : Content}
    (represents : Represents geometry (.of geometry content) tree chain)
    (represents' : Represents geometry (.of geometry content') tree chain)
    (spare : Bitmap.SameFrom geometry.blocks (Disk.of geometry content).bitmap
      (Disk.of geometry content').bitmap)
    (holders : content'.holders geometry = content.holders geometry) {position : Nat}
    (notCursor : ¬ Area.Covers geometry (.counter .nextFreeBlock) position)
    (taken : ¬ (Disk.of geometry content).IsFree geometry (position / geometry.blockSize)) :
    content'.byte position = content.byte position := by
  apply Disk.byte_eq holders (represents'.stored.fixed.trans represents.stored.fixed.symm)
  intro area valid covers
  apply represents.agreeOn represents' spare valid
  · rintro rfl
    exact notCursor covers
  · intro block inBlock
    rwa [← inBlock.div_eq covers]

end Represents

/-! Entering and leaving -/

namespace Tree

variable {parent slot slots : Nat} {children : List Child} {name : String} {kind : FileKind}

theorem moveLast_append (children : List Child) (child : Child) :
    moveLast (children ++ [child]) children.length = children := by
  rw [moveLast, List.getLast?_concat]
  dsimp only
  rw [List.set_append_right _ _ (Nat.le_refl _), Nat.sub_self, List.set_cons_zero,
    List.dropLast_concat]

/-- Taking the last child out again empties its slot and leaves nothing else behind. -/
theorem leave_enter (body : (tree parent).body = .directory children) (different : slot ≠ parent) :
    (tree.enter parent slot name kind).leave parent children.length slot = tree.vacate slot := by
  have isChildren := Node.children_of_directory body
  funext node
  by_cases isSlot : node = slot
  · rw [isSlot, WellFormed.leave_target, enter_slot, vacate, Function.update_self]
  · rw [vacate, Function.update_of_ne isSlot]
    by_cases isParent : node = parent
    · rw [isParent, leave_parent different, WellFormed.children_enter different,
        if_neg (Ne.symm different), if_pos rfl, isChildren, moveLast_append, enter_parent different,
        ← body]
    · rw [WellFormed.leave_of_ne isSlot isParent, WellFormed.enter_of_ne isSlot isParent]

theorem directory?_enter (wellFormed : (tree.enter parent slot name kind).WellFormed slots)
    (vacant : ¬ (tree slot).IsLive) {parents : List String}
    (found : tree.directory? parents = some (parent, children)) :
    (tree.enter parent slot name kind).directory? parents =
      some (parent, children ++ [⟨name, slot⟩]) := by
  obtain ⟨leads, body⟩ := directory?_eq_some.mp found
  have different : slot ≠ parent := fun same => vacant (same ▸ Node.isLive_of_directory body)
  apply directory?_eq_some.mpr
  constructor
  · exact (Ages.enter wellFormed body vacant).path leads (by simp)
  · rw [enter_parent different, Node.children_of_directory body]

theorem directory?_vacate (vacant : ¬ (tree slot).IsLive) {parents : List String}
    (found : tree.directory? parents = some (parent, children)) :
    (tree.vacate slot).directory? parents = some (parent, children) := by
  obtain ⟨leads, body⟩ := directory?_eq_some.mp found
  have different : parent ≠ slot := by
    rintro rfl
    exact vacant (Node.isLive_of_directory body)
  apply directory?_eq_some.mpr
  constructor
  · exact (Ages.vacate vacant).path leads (by simp)
  · rwa [vacate, Function.update_of_ne different]

/-- What holds when a node is made. -/
theorem of_create_ok {geometry : Geometry} {free : Nat} {path : String}
    (created : (tree.create geometry free path kind).1 = .ok slot) :
    ∃ parents name parent children, Path.splitLast path = .ok (parents, name) ∧
      tree.directory? parents = some (parent, children) ∧ tree.child? parent name = none ∧
      tree.vacancy geometry.inodeCount = some slot ∧
      extraBlocks geometry (children.length * 256) ((children.length + 1) * 256) ≤ free := by
  rw [create] at created
  cases split : Path.splitLast path with
  | error error =>
      rw [split] at created
      cases created
  | ok names =>
      obtain ⟨parents, name⟩ := names
      rw [split] at created
      dsimp only at created
      cases found : tree.directory? parents with
      | none =>
          rw [found] at created
          cases created
      | some directory =>
          obtain ⟨parent, children⟩ := directory
          rw [found] at created
          dsimp only at created
          split at created
          · cases created
          · next new =>
            split at created
            · cases created
            · next slot' vacancy =>
              split at created
              · cases created
              · next enough =>
                cases created
                exact ⟨parents, name, parent, children, rfl, found, by simpa using new, vacancy,
                  Nat.not_lt.mp enough⟩

theorem findIdx?_concat (body : (tree parent).body = .directory children)
    (new : tree.child? parent name = none) :
    (children ++ [(⟨name, slot⟩ : Child)]).findIdx? (·.name = name) = some children.length := by
  have notMember := child?_eq_none.mp new
  rw [Node.children_of_directory body] at notMember
  have none : children.findIdx? (·.name = name) = none := by
    rw [List.findIdx?_eq_none_iff]
    intro child member
    exact decide_eq_false fun same => notMember (same ▸ List.mem_map_of_mem member)
  rw [List.findIdx?_append, none]
  simp

end Tree

/-- The chains after a node without blocks has been emptied and its parent has got its own back. -/
theorem update_back {parent slot : Nat} {grown kept : List Nat} (different : slot ≠ parent)
    (empty : chain slot = []) (isKept : kept = chain parent) :
    update (update (update chain parent grown) slot []) parent kept = chain := by
  have same : update chain slot [] = chain := by
    rw [← empty]
    exact Function.update_eq_self ..
  rw [Function.update_comm (Ne.symm different), Function.update_idem, same, isKept]
  exact Function.update_eq_self ..

namespace Represents

variable {middle : Disk} {parent slot : Nat} {children : List Child} {fresh : List Nat}
  {name : String} {kind : FileKind} {parents : List String}

/-- A directory that has as many entries as before has its blocks as before. -/
theorem removeLocked_undoes (represents : Represents volume.geometry before tree chain)
    (found : tree.directory? parents = some (parent, children))
    (new : tree.child? parent name = none)
    (vacancy : tree.vacancy volume.geometry.inodeCount = some slot)
    (entered : Represents volume.geometry middle (tree.enter parent slot name kind)
      (update chain parent (chain parent ++ fresh))) (path : String) :
    ∃ after, Leads volume (volume.removeLocked path parents name) middle (.ok ()) after ∧
      Represents volume.geometry after (tree.vacate slot) chain ∧
      Bitmap.SameFrom volume.geometry.blocks middle.bitmap after.bitmap := by
  have body := (Tree.directory?_eq_some.mp found).2
  have vacant := (Tree.vacancy_eq_some.mp vacancy).2.2.1
  have different := slot_ne_parent body vacancy
  have found' := Tree.directory?_enter entered.wellFormed vacant found
  have leaf : (tree.enter parent slot name kind slot).children = [] := by
    rw [Tree.WellFormed.children_enter different, if_pos rfl]
  obtain ⟨after, kept, removes, represents', front, spare⟩ := entered.removeLocked_leaves path found'
    (Tree.findIdx?_concat body new) List.getElem?_concat_length leaf
  rw [Tree.leave_enter body different] at represents'
  refine ⟨after, removes, ?_, spare⟩
  have count := represents'.stored.length parent
  rw [Function.update_self, Tree.vacate, Function.update_of_ne (Ne.symm different),
    ← represents.stored.length] at count
  have isKept : kept = chain parent := by
    rw [List.prefix_iff_eq_take.mp front, Function.update_self, count, List.take_left]
  have empty := represents.stored.chain_eq_nil (represents.stored_of_vacant vacant).2
  rwa [update_back different empty isKept] at represents'

end Represents

namespace Session

variable {session middle after : Session} {index parent slot : Nat}
  {path name : String} {kind : FileKind} {parents : List String} {children : List Child}
  {fresh : List Nat}

/-- After a node has been made the file stands for the tree with the node, and the chain of its parent
has at most been continued. -/
structure Created (geometry : Geometry) (chain : Nat → List Nat) (before : Session) (path : String)
    (kind : FileKind) (parents : List String) (name : String) (parent : Nat) (children : List Child)
    (slot : Nat) (fresh : List Nat) (after : Session) : Prop where
  split : Path.splitLast path = .ok (parents, name)
  found : (before.tree geometry).directory? parents = some (parent, children)
  new : (before.tree geometry).child? parent name = none
  vacancy : (before.tree geometry).vacancy geometry.inodeCount = some slot
  inOrder : after.InOrder geometry
  tree : after.tree geometry = (before.tree geometry).enter parent slot name kind
  represents : Represents geometry (after.disk geometry) (after.tree geometry)
    (update chain parent (chain parent ++ fresh))
  spare : Bitmap.SameFrom geometry.blocks (before.disk geometry).bitmap (after.disk geometry).bitmap
  images : after.images.length = before.images.length

theorem InOrder.created (order : session.InOrder geometry)
    (represents : Represents geometry (session.disk geometry) (session.tree geometry) chain)
    (performed : session.perform index (.create path kind) = some (.ok .done, middle)) :
    ∃ parents name parent children slot fresh,
      Created geometry chain session path kind parents name parent children slot fresh middle := by
  obtain ⟨mounted, isOpen⟩ := isSome_of_perform performed
  obtain ⟨-, isGeometry, fit⟩ := order.mounted mounted (List.mem_of_getElem? isOpen)
  obtain ⟨_, performs, -⟩ := order.perform isOpen (.create path kind)
  rw [performed] at performs
  have answered := (Prod.mk.inj (Option.some.inj performs)).1
  subst isGeometry
  obtain ⟨slot, creates⟩ : ∃ slot, ((session.tree mounted.image.volume.geometry).create
      mounted.image.volume.geometry
      ((session.disk mounted.image.volume.geometry).counter .freeBlocks) path kind).1 = .ok slot := by
    cases creates : ((session.tree mounted.image.volume.geometry).create
        mounted.image.volume.geometry
        ((session.disk mounted.image.volume.geometry).counter .freeBlocks) path kind).1 with
    | ok slot => exact ⟨slot, rfl⟩
    | error error =>
        rw [outcome, Image.Operation.outcome] at answered
        dsimp only at answered
        rw [creates] at answered
        cases answered
  obtain ⟨parents, name, parent, children, split, found, new, vacancy, enough⟩ :=
    Tree.of_create_ok creates
  obtain ⟨fresh, disk, leads, represents', spare⟩ :=
    @Represents.createLocked_enters _ _ _ _ _ _ _ _ kind represents path _ found
      (Path.nameFits_of_splitLast split) new vacancy enough
  have acts : Acts mounted.image.volume ((Image.Operation.create path kind).action mounted.image.volume)
      mounted.image.files _ (.ok .done) mounted.image.files disk :=
    (Acts.lift (Represents.create_performs split leads)).map _
  obtain ⟨after, performs, turns, isDisk, -⟩ := order.perform_of_acts isOpen acts represents' fit
  rw [performed] at performs
  cases performs
  refine ⟨parents, name, parent, children, slot, fresh, split, found, new, vacancy, turns.inOrder,
    turns.tree, ?_, ?_, by rw [turns.images, List.length_set]⟩
  · rw [isDisk, turns.tree]
    exact represents'
  · rw [isDisk]
    exact spare

/-- Any image can take the node out again. -/
theorem Created.remove (created : Created geometry chain session path kind parents name parent children
      slot fresh middle)
    (represents : Represents geometry (session.disk geometry) (session.tree geometry) chain)
    {mounted : Host.Mounted} (isOpen : middle.images[index]? = some mounted) :
    ∃ after, middle.perform index (.remove path) = some (.ok .done, after) ∧
      after.InOrder geometry ∧
      after.tree geometry = (session.tree geometry).vacate slot ∧
      Represents geometry (after.disk geometry) ((session.tree geometry).vacate slot) chain ∧
      Bitmap.SameFrom geometry.blocks (session.disk geometry).bitmap (after.disk geometry).bitmap := by
  obtain ⟨-, isGeometry, fit⟩ := created.inOrder.mounted mounted (List.mem_of_getElem? isOpen)
  subst isGeometry
  have entered := created.represents
  rw [created.tree] at entered
  obtain ⟨disk, leads, represents', spare⟩ :=
    represents.removeLocked_undoes created.found created.new created.vacancy entered path
  have acts : Acts mounted.image.volume ((Image.Operation.remove path).action mounted.image.volume)
      mounted.image.files _ (.ok .done) mounted.image.files disk :=
    (Acts.lift (Represents.remove_performs created.split leads)).map _
  obtain ⟨after, performs, turns, isDisk, -⟩ :=
    created.inOrder.perform_of_acts isOpen acts represents' fit
  rw [← isDisk] at represents' spare
  exact ⟨after, performs, turns.inOrder, turns.tree, represents', created.spare.trans spare⟩

/-- The file is what it was before, but for the cursor of the blocks, the generation of the slot and the
blocks that were free and are free again. -/
structure Restored (geometry : Geometry) (slot : Nat) (before after : Session) : Prop where
  size : after.backing.content.size = before.backing.content.size
  generation : after.backing.content.byte (generationPosition geometry slot) =
    before.backing.content.byte (generationPosition geometry slot) + 1
  bytes : ∀ position, position ≠ generationPosition geometry slot →
    ¬ Area.Covers geometry (.counter .nextFreeBlock) position →
    ¬ ((before.disk geometry).IsFree geometry (position / geometry.blockSize) ∧
      (after.disk geometry).IsFree geometry (position / geometry.blockSize)) →
    after.backing.content.byte position = before.backing.content.byte position
  bitmap : (after.disk geometry).bitmap = (before.disk geometry).bitmap
  freeBlocks : (after.disk geometry).counter .freeBlocks = (before.disk geometry).counter .freeBlocks
  nextFreeInode :
    (after.disk geometry).counter .nextFreeInode = (before.disk geometry).counter .nextFreeInode
  record : ∀ inode < geometry.inodeCount, inode ≠ slot →
    (after.disk geometry).record inode = (before.disk geometry).record inode
  tree : after.tree geometry = (before.tree geometry).vacate slot

/-- A file that stands for the tree with an older slot, with the chains as they were, is the file as it
was with the older slot. -/
theorem InOrder.restored (order : session.InOrder geometry) (order' : after.InOrder geometry)
    (represents : Represents geometry (session.disk geometry) (session.tree geometry) chain)
    (vacancy : (session.tree geometry).vacancy geometry.inodeCount = some slot)
    (represents' : Represents geometry (after.disk geometry) ((session.tree geometry).vacate slot)
      chain)
    (spare : Bitmap.SameFrom geometry.blocks (session.disk geometry).bitmap
      (after.disk geometry).bitmap)
    (isTree : after.tree geometry = (session.tree geometry).vacate slot) :
    Restored geometry slot session after := by
  let position := generationPosition geometry slot
  let older := session.backing.content.write position [session.backing.content.byte position + 1]
  obtain ⟨-, inside, -⟩ := Tree.vacancy_eq_some.mp vacancy
  obtain ⟨-, holders, shows⟩ := order.disk_of_older vacancy
  have sameHolders : after.backing.content.holders geometry = older.holders geometry :=
    (order'.rest.holders.trans order.rest.holders.symm).trans holders.symm
  have retired := @Represents.retired (geometry.volume 0) _ _ _ _ represents vacancy
  have stands : Represents geometry (Disk.of geometry older) ((session.tree geometry).vacate slot)
      chain := by
    rw [shows]
    exact retired
  have isBitmap : (Disk.of geometry older).bitmap = (session.disk geometry).bitmap := by
    rw [shows]
    rfl
  have spare' : Bitmap.SameFrom geometry.blocks (Disk.of geometry older).bitmap
      (after.disk geometry).bitmap := by
    rw [isBitmap]
    exact spare
  have bitmap := represents.stored.ledger.bitmap_eq represents'.stored.ledger spare
  refine ⟨order'.size.trans order.size.symm, ?_, ?_, bitmap, ?_, ?_, ?_, isTree⟩
  · have valid : (Area.record slot).Valid geometry := inside
    have record : after.backing.content.area geometry (.record slot) =
        older.area geometry (.record slot) :=
      Disk.area_eq valid sameHolders
        (stands.agreeOn represents' spare' valid (by simp) fun block inBlock => by cases inBlock)
    have within : position < Area.first geometry (.record slot) + recordLength :=
      Nat.add_lt_add_left (by decide) _
    have same : after.backing.content.byte position = older.byte position :=
      Content.byte_of_read record (Nat.le_add_right _ _) within
    have isOlder : older.byte position = session.backing.content.byte position + 1 := by
      simp [older, Content.byte_write]
    exact same.trans isOlder
  · intro other different notCursor notFree
    have same : after.backing.content.byte other = older.byte other := by
      apply stands.byte_eq represents' spare' sameHolders notCursor
      intro isFree
      have isFree := (Disk.isFree_congr isBitmap _).mp isFree
      exact notFree ⟨isFree, (Disk.isFree_congr bitmap _).mpr isFree⟩
    have apart : other < position ∨ position + 1 ≤ other := by omega
    exact same.trans (Content.byte_write_of_apart _ apart)
  · rw [represents'.stored.ledger.free, bitmap, represents.stored.ledger.free]
  · exact represents'.slotCursor.trans retired.slotCursor.symm
  · intro inode inside' different
    rw [represents'.stored.record inode inside', represents.stored.record inode inside', Tree.vacate,
      Function.update_of_ne different]

/-- In every reachable state removing undoes creating. The parent has its entries in the order in which
it had them, and all bytes are what they were but those of the cursor of the blocks, of the generation of
the slot, and of blocks that are free before and after. -/
theorem remove_undoes_create (reachable : Reachable geometry session)
    (performed : session.perform index (.create path kind) = some (.ok .done, middle)) :
    ∃ parents name parent children slot,
      Path.splitLast path = .ok (parents, name) ∧
      (session.tree geometry).directory? parents = some (parent, children) ∧
      (middle.tree geometry).directory? parents = some (parent, children ++ [⟨name, slot⟩]) ∧
      index < middle.images.length ∧
      ∀ other < middle.images.length, ∃ after,
        middle.perform other (.remove path) = some (.ok .done, after) ∧
        Restored geometry slot session after ∧
        (after.disk geometry).record parent = (session.disk geometry).record parent ∧
        (after.tree geometry).directory? parents = some (parent, children) := by
  have order := reachable.inOrder
  obtain ⟨chain, represents⟩ := order.represents
  obtain ⟨parents, name, parent, children, slot, fresh, created⟩ :=
    order.created represents performed
  have body := (Tree.directory?_eq_some.mp created.found).2
  have vacant := (Tree.vacancy_eq_some.mp created.vacancy).2.2.1
  have different := @Represents.slot_ne_parent (geometry.volume 0) _ _ _ _ body created.vacancy
  have wellFormed := created.represents.wellFormed
  rw [created.tree] at wellFormed
  have isParent : parent < geometry.inodeCount :=
    represents.wellFormed.lt_of_isLive (Node.isLive_of_directory body)
  refine ⟨parents, name, parent, children, slot, created.split, created.found, ?_,
    ?_, fun other inside => ?_⟩
  · rw [created.tree]
    exact Tree.directory?_enter wellFormed vacant created.found
  · obtain ⟨mounted, isOpen⟩ := isSome_of_perform performed
    rw [created.images]
    exact (List.getElem?_eq_some_iff.mp isOpen).1
  · obtain ⟨after, removes, order', isTree, represents', spare⟩ :=
      created.remove represents (List.getElem?_eq_getElem inside)
    have restored := order.restored order' represents created.vacancy represents' spare isTree
    refine ⟨after, removes, restored, restored.record parent isParent (Ne.symm different), ?_⟩
    rw [isTree]
    exact Tree.directory?_vacate vacant created.found

/-- The first file of an image takes a block for its entry and gives it back. -/
theorem smallest_image_remove_undoes_create :
    ∃ middle after, Reachable smallest (new smallest) ∧
      (new smallest).perform 0 (.create "/a" .file) = some (.ok .done, middle) ∧
      middle.perform 0 (.remove "/a") = some (.ok .done, after) ∧
      Restored smallest 2 (new smallest) after := by
  obtain ⟨owner, stands⟩ := @new_stands smallest [0, 1] (by decide) (by decide)
  have split : Path.splitLast "/a" = .ok ([], "a") := by decide +kernel
  obtain ⟨middle, performs, stands'⟩ :=
    @Stands.create _ _ _ _ _ stands _ .file _ _ _ _ _ split rfl rfl rfl (by decide) (by decide)
  obtain ⟨parents, name, parent, children, slot, isSplit, -, entered, inside, undone⟩ :=
    remove_undoes_create stands.reachable performs
  obtain ⟨after, removes, restored, -⟩ := undone 0 inside
  have isSlot : slot = 2 := by
    rw [split] at isSplit
    cases isSplit
    rw [stands'.isTree] at entered
    have entries : [⟨"a", 2⟩] = children ++ [⟨"a", slot⟩] :=
      (Prod.mk.inj (Option.some.inj entered)).2
    have last := congrArg List.getLast? entries
    simpa using last.symm
  rw [isSlot] at restored
  exact ⟨middle, after, stands.reachable, performs, removes, restored⟩

end Session

end ImageFs
