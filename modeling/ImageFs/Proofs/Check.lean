import ImageFs.Proofs.Header
import ImageFs.Proofs.LinkCounts
import ImageFs.Proofs.Slots

/-!
The check of an image in order. Main statement: it finds nothing, and the allocated and the free blocks
that it counts make up all blocks.
-/

namespace ImageFs

variable {volume : Volume} {disk : Disk} {tree : Tree} {chain : Nat → List Nat}
  {overflow : Check.Overflow}

/-! The live inodes -/

namespace Tree

variable (tree : Tree) (chain : Nat → List Nat)

def liveNodes (first count : Nat) : List Nat :=
  (List.range' first count).filter fun node => decide (tree node).IsLive

/-- The inodes of nodes, with their numbers. -/
def inodesOf (nodes : List Nat) : Check.LiveInodes :=
  nodes.map fun node => (node, (tree node).inode (chain node))

variable {tree chain}

theorem mem_liveNodes {first count node : Nat} :
    node ∈ tree.liveNodes first count ↔ first ≤ node ∧ node < first + count ∧ (tree node).IsLive := by
  rw [liveNodes, List.mem_filter, List.mem_range'_1, decide_eq_true_eq, and_assoc]

theorem nodup_liveNodes (first count : Nat) : (tree.liveNodes first count).Nodup :=
  List.Nodup.filter _ (List.nodup_range' ..)

theorem liveNodes_succ (first count : Nat) :
    tree.liveNodes first (count + 1) =
      if (tree first).IsLive then first :: tree.liveNodes (first + 1) count
      else tree.liveNodes (first + 1) count := by
  rw [liveNodes, List.range'_succ, List.filter_cons]
  split
  · next live => rw [if_pos (by simpa using live)]; rfl
  · next vacant => rw [if_neg (by simpa using vacant)]; rfl

theorem find?_inodesOf (nodes : List Nat) (number : Nat) :
    Check.find? (tree.inodesOf chain nodes) number =
      if number ∈ nodes then some ((tree number).inode (chain number)) else none := by
  induction nodes with
  | nil => rfl
  | cons node rest induction =>
      rw [Check.find?, inodesOf] at induction ⊢
      rw [List.map_cons, List.lookup_cons, induction]
      by_cases same : number = node
      · subst same
        simp
      · rw [beq_false_of_ne same]
        simp [same]

theorem lowestVacant_inodesOf {first count : Nat} {nodes : List Nat}
    (live : ∀ node, first ≤ node → node < first + count → (node ∈ nodes ↔ (tree node).IsLive)) :
    Check.lowestVacant (tree.inodesOf chain nodes) count first = tree.vacantFrom first count := by
  induction count generalizing first with
  | zero => rfl
  | succ count induction =>
      have here := live first (Nat.le_refl _) (by omega)
      have rest : Check.lowestVacant (tree.inodesOf chain nodes) count (first + 1) =
          tree.vacantFrom (first + 1) count :=
        induction fun node behind before => live node (by omega) (by omega)
      rw [Check.lowestVacant, find?_inodesOf, rest, vacantFrom, vacantFrom, List.range'_succ,
        List.find?_cons]
      by_cases isLive : (tree first).IsLive
      · simp [here.mpr isLive, isLive]
      · simp [mt here.mp isLive, isLive]

end Tree

namespace Represents

theorem liveFrom_answers (represents : Represents volume.geometry disk tree chain)
    {number count : Nat} (inside : number + count ≤ volume.geometry.inodeCount) :
    Answers volume (volume.liveFrom count number) disk
      (.ok (tree.inodesOf chain (tree.liveNodes number count))) := by
  induction count generalizing number with
  | zero => exact .pure _
  | succ count induction =>
      refine (represents.stored.getInode_answers (by omega)).bind ?_
      refine (induction (show number + 1 + count ≤ _ by omega)).bind ?_
      rw [Tree.liveNodes_succ]
      rw [Node.isEmpty_inode]
      by_cases live : (tree number).IsLive
      · rw [decide_eq_true live, if_pos live]
        exact .pure _
      · rw [decide_eq_false live, if_neg live]
        exact .pure _

theorem reserved_live (represents : Represents volume.geometry disk tree chain) {number : Nat}
    (reserved : InodeNumber.isReserved number = true) : (tree number).IsLive := by
  have first : InodeNumber.firstFree = 2 := rfl
  simp only [InodeNumber.isReserved, decide_eq_true_eq] at reserved
  have cases : number = InodeNumber.root ∨ number = InodeNumber.anchor := by
    simp only [InodeNumber.root, InodeNumber.anchor]
    omega
  rcases cases with rfl | rfl
  · obtain ⟨children, body⟩ := represents.wellFormed.rootBody
    exact Node.isLive_of_directory body
  · rw [represents.wellFormed.anchor]
    simp [Node.IsLive, Node.anchor]

theorem scanFrom_answers (represents : Represents volume.geometry disk tree chain)
    {number count : Nat} (inside : number + count ≤ volume.geometry.inodeCount) :
    Answers volume (Check.scanFrom volume count number) disk
      (.ok (tree.inodesOf chain (tree.liveNodes number count), [])) := by
  induction count generalizing number with
  | zero => exact .pure _
  | succ count induction =>
      refine (represents.stored.getInode_answers (by omega)).damageOr.bind ?_
      refine (induction (show number + 1 + count ≤ _ by omega)).bind ?_
      rw [Tree.liveNodes_succ]
      by_cases live : (tree number).IsLive
      · refine Answers.ite_pos (by simp [live]) ?_
        rw [if_pos live]
        exact .pure _
      · refine Answers.ite_neg (by simp [live]) (Answers.ite_neg ?_ ?_)
        · exact fun reserved => live (represents.reserved_live reserved)
        · rw [if_neg live]
          exact .pure _

end Represents

/-! Owners of blocks -/

namespace Check

/-- The owners after the chains of nodes have been entered. -/
def ownersAfter (chain : Nat → List Nat) : List Nat → Owners → Owners
  | [], owners => owners
  | node :: rest, owners =>
      ownersAfter chain rest ((chain node).reverse.map (·, node) ++ owners)

theorem lookup_claimed (node : Nat) (blocks : List Nat) (owners : Owners) (block : Nat) :
    (blocks.reverse.map (·, node) ++ owners).lookup block =
      if block ∈ blocks then some node else owners.lookup block := by
  have flipped : block ∈ blocks ↔ block ∈ blocks.reverse := List.mem_reverse.symm
  simp only [flipped]
  induction blocks.reverse with
  | nil => simp
  | cons first rest induction =>
      rw [List.map_cons, List.cons_append, List.lookup_cons, induction]
      by_cases same : block = first
      · subst same
        simp
      · rw [beq_false_of_ne same]
        simp [same]

theorem lookup_ownersAfter_of_notMem {nodes : List Nat} {owners : Owners} {block : Nat}
    (outside : ∀ node ∈ nodes, block ∉ chain node) :
    (ownersAfter chain nodes owners).lookup block = owners.lookup block := by
  induction nodes generalizing owners with
  | nil => rfl
  | cons node rest induction =>
      rw [ownersAfter, induction fun other member => outside other (List.mem_cons_of_mem _ member),
        lookup_claimed, if_neg (outside node List.mem_cons_self)]

theorem lookup_ownersAfter {nodes : List Nat} {owners : Owners} {node block : Nat}
    (apart : ∀ first second, first ≠ second → ∀ block ∈ chain first, block ∉ chain second)
    (nodup : nodes.Nodup) (member : node ∈ nodes) (inChain : block ∈ chain node) :
    (ownersAfter chain nodes owners).lookup block = some node := by
  -- an owner entered later would hide this one, but no later chain has the block
  induction nodes generalizing owners with
  | nil => cases member
  | cons head rest induction =>
      obtain ⟨notMem, nodup'⟩ := List.nodup_cons.mp nodup
      rcases List.mem_cons.mp member with rfl | member
      · rw [ownersAfter, lookup_ownersAfter_of_notMem, lookup_claimed, if_pos inChain]
        exact fun other inRest => apart node other (ne_of_mem_of_not_mem inRest notMem).symm block
          inChain
      · exact induction nodup' member

theorem claimBlocks_clean {geometry : Geometry} {bitmap : Bytes} {number : Nat} {blocks : List Nat}
    {owners : Owners} (nodup : blocks.Nodup)
    (marked : ∀ block ∈ blocks, Bitmap.get bitmap (block - geometry.dataStart) = true)
    (unclaimed : ∀ block ∈ blocks, owners.lookup block = none) :
    claimBlocks geometry bitmap number blocks owners =
      (blocks.reverse.map (·, number) ++ owners, []) := by
  induction blocks generalizing owners with
  | nil => rfl
  | cons block rest induction =>
      obtain ⟨notMem, nodup'⟩ := List.nodup_cons.mp nodup
      have others := @induction ((block, number) :: owners) nodup'
        (fun other member => marked other (List.mem_cons_of_mem _ member)) (by
          intro other member
          rw [List.lookup_cons, beq_false_of_ne (ne_of_mem_of_not_mem member notMem)]
          exact unclaimed other (List.mem_cons_of_mem _ member))
      rw [claimBlocks, others, unclaimed block List.mem_cons_self, if_pos (marked block
        List.mem_cons_self)]
      simp

end Check

namespace Represents

theorem checkChains_answers (represents : Represents volume.geometry disk tree chain)
    {nodes : List Nat} {owners : Check.Owners} (nodup : nodes.Nodup)
    (unclaimed : ∀ node ∈ nodes, ∀ block ∈ chain node, owners.lookup block = none) :
    Answers volume (Check.checkChains volume disk.bitmap (tree.inodesOf chain nodes) owners) disk
      (.ok (Check.ownersAfter chain nodes owners, [])) := by
  have ledger := represents.stored.ledger
  induction nodes generalizing owners with
  | nil => exact .pure _
  | cons node rest induction =>
      obtain ⟨notMem, nodup'⟩ := List.nodup_cons.mp nodup
      have clean := @Check.claimBlocks_clean volume.geometry disk.bitmap node (chain node) owners
        (ledger.nodup node) (fun block member => ledger.marked_of_mem member)
        (unclaimed node List.mem_cons_self)
      have others := @induction ((chain node).reverse.map (·, node) ++ owners) nodup' (by
        intro other inRest block member
        rw [Check.lookup_claimed, if_neg]
        · exact unclaimed other (List.mem_cons_of_mem _ inRest) block member
        · exact ledger.apart other node (ne_of_mem_of_not_mem inRest notMem) block member)
      refine (represents.stored.chain_answers node).damageOr.bind ?_
      dsimp only
      rw [clean, represents.stored.size_toNat, if_pos (represents.stored.length node)]
      exact others.bind (.pure _)

theorem unreachable_nil (represents : Represents volume.geometry disk tree chain)
    {owners : Check.Owners}
    (owned : ∀ node, (tree node).IsLive → ∀ block ∈ chain node, owners.lookup block = some node) :
    Check.unreachable volume.geometry disk.bitmap owners = [] := by
  have ledger := represents.stored.ledger
  rw [Check.unreachable, List.map_eq_nil_iff, List.filter_eq_nil_iff]
  intro bit member
  simp only [Bool.and_eq_true, decide_eq_true_eq, not_and, Bool.not_eq_true, and_imp]
  intro usable marked
  obtain ⟨node, inChain⟩ := (ledger.marked bit (List.mem_range.mp member)).mp marked
  have live : (tree node).IsLive := by
    by_contra vacant
    rw [represents.stored.chain_eq_nil (represents.stored_of_vacant vacant).2] at inChain
    cases inChain
  rw [owned node live _ inChain]
  rfl

end Represents

/-! Directories and links -/

namespace Check

theorem fault?_eq_none {inodes : LiveInodes} {directory : Nat} {child : Child} {target : Inode}
    (number : child.entry.inode.toNat = child.inode)
    (free : InodeNumber.isReserved child.inode = false)
    (found : find? inodes child.inode = some target) (named : target.name = child.name) :
    fault? inodes directory child.entry = none := by
  have entryName : child.entry.name = child.name := rfl
  simp [fault?, number, free, found, named, entryName]

theorem linkedBy_clean {inodes : LiveInodes} {directory : Nat} {children : List Child}
    (number : ∀ child ∈ children, child.entry.inode.toNat = child.inode)
    (clean : ∀ child ∈ children, fault? inodes directory child.entry = none) :
    linkedBy inodes directory (children.map Child.entry) = children.map Child.inode := by
  rw [linkedBy, List.filter_eq_self.mpr, List.map_map]
  · exact List.map_congr_left number
  · intro entry member
    obtain ⟨child, inChildren, rfl⟩ := List.mem_map.mp member
    rw [clean child inChildren]
    rfl

theorem entryFindings_clean {inodes : LiveInodes} {directory : Nat} {children : List Child}
    {names : List String}
    (clean : ∀ child ∈ children, fault? inodes directory child.entry = none)
    (new : ∀ child ∈ children, child.name ∉ names) (distinct : (children.map Child.name).Nodup) :
    entryFindings inodes directory (children.map Child.entry) names = [] := by
  induction children generalizing names with
  | nil => rfl
  | cons child rest induction =>
      obtain ⟨notMem, distinct'⟩ := List.nodup_cons.mp distinct
      have others := @induction (child.name :: names)
        (fun other member => clean other (List.mem_cons_of_mem _ member)) (by
          intro other member
          rw [List.mem_cons, not_or]
          refine ⟨fun same => notMem ?_, new other (List.mem_cons_of_mem _ member)⟩
          exact same ▸ List.mem_map_of_mem member) distinct'
      have entryName : child.entry.name = child.name := rfl
      rw [List.map_cons, entryFindings, entryName, others, clean child List.mem_cons_self]
      simp [new child List.mem_cons_self]

end Check

namespace Tree

/-- The inodes that the directories among nodes link to. -/
def linksOf (tree : Tree) (nodes : List Nat) : List Nat :=
  nodes.flatMap fun node => (tree node).children.map Child.inode

theorem WellFormed.nodup_linksOf {slots : Nat} (wellFormed : tree.WellFormed slots)
    {nodes : List Nat} (nodup : nodes.Nodup) : (tree.linksOf nodes).Nodup := by
  refine List.nodup_flatMap.mpr ⟨fun directory _ => ?_, ?_⟩
  · refine List.Nodup.map_on (fun child member child' member' same => ?_) ?_
    · exact wellFormed.child_eq member member' same
    · exact (wellFormed.distinct directory).of_map
  · refine nodup.imp fun {first second} different => ?_
    intro number inFirst inSecond
    obtain ⟨child, member, rfl⟩ := List.mem_map.mp inFirst
    obtain ⟨other, member', same⟩ := List.mem_map.mp inSecond
    exact different (wellFormed.parent first second child member other member' same.symm)

/-- Every node but the root and the anchor is linked once. -/
theorem WellFormed.count_linksOf {slots : Nat} (wellFormed : tree.WellFormed slots)
    {nodes : List Nat} (nodup : nodes.Nodup) (all : ∀ node, (tree node).IsLive → node ∈ nodes)
    {node : Nat} (free : InodeNumber.firstFree ≤ node) (live : (tree node).IsLive) :
    (tree.linksOf nodes).count node = 1 := by
  refine List.count_eq_one_of_mem (wellFormed.nodup_linksOf nodup) ?_
  obtain ⟨directory, child, member, isNode⟩ := wellFormed.linked node free live
  have body := Node.directory_of_mem_children member
  exact List.mem_flatMap.mpr ⟨directory, all directory (Node.isLive_of_directory body),
    List.mem_map.mpr ⟨child, member, isNode⟩⟩

end Tree

namespace Represents

theorem checkDirectories_answers (represents : Represents volume.geometry disk tree chain)
    {live nodes : List Nat} (all : ∀ node, (tree node).IsLive → node ∈ live)
    (inside : ∀ node ∈ nodes, node < volume.geometry.inodeCount) {links : Check.LinkCounts}
    (room : Check.Room overflow links (tree.linksOf nodes)) :
    Answers volume
      (Check.checkDirectories overflow volume (tree.inodesOf chain live) (tree.inodesOf chain nodes)
        links) disk
      (.ok (Check.addLinks links (tree.linksOf nodes), [])) := by
  induction nodes generalizing links with
  | nil => exact .pure _
  | cons node rest induction =>
      have others := @induction fun other member => inside other (List.mem_cons_of_mem _ member)
      have isLinks : tree.linksOf (node :: rest) =
          (tree node).children.map Child.inode ++ tree.linksOf rest := by
        rw [Tree.linksOf, List.flatMap_cons]
        rfl
      rw [isLinks] at room ⊢
      obtain ⟨here, later⟩ := Check.room_append.mp room
      rw [Check.addLinks_append]
      cases body : (tree node).body with
      | directory children =>
          have isChildren : (tree node).children = children := Node.children_of_directory body
          have number (child : Child) (member : child ∈ children) :
              child.entry.inode.toNat = child.inode := represents.stored.entry_inode body member
          have clean (child : Child) (member : child ∈ children) :
              Check.fault? (tree.inodesOf chain live) node child.entry = none := by
            obtain ⟨-, isLive, name⟩ := represents.wellFormed.child node child (isChildren ▸ member)
            have free := (represents.child_inside (isChildren ▸ member)).2.1
            have first : InodeNumber.firstFree = 2 := rfl
            refine Check.fault?_eq_none (number child member) ?_
              (by rw [Tree.find?_inodesOf, if_pos (all _ isLive)]) name
            simp only [InodeNumber.isReserved, decide_eq_false_iff_not]
            omega
          rw [isChildren] at here later ⊢
          refine Answers.ite_neg ?_ ?_
          · rw [Node.isDirectory_inode, isChildren, decide_eq_true body]
            decide
          refine (represents.stored.list_answers body (inside node List.mem_cons_self)).damageOr.bind ?_
          dsimp only
          rw [Check.checkEntries_eq, Check.linkedBy_clean number clean,
            Check.countLinks_of_room here, Check.entryFindings_clean clean (fun _ _ => List.not_mem_nil)
              (isChildren ▸ represents.wellFormed.distinct node)]
          exact (others later).bind (.pure _)
      | _ =>
          have none : (tree node).children = [] := by
            rw [Node.children, body]
          rw [none] at later ⊢
          refine Answers.ite_pos ?_ (others later)
          simp [body]

theorem checkLinks_nil (represents : Represents volume.geometry disk tree chain) {nodes : List Nat}
    (nodup : nodes.Nodup) (all : ∀ node, (tree node).IsLive ↔ node ∈ nodes) :
    Check.checkLinks (tree.inodesOf chain nodes) (Check.addLinks [] (tree.linksOf nodes)) = [] := by
  rw [Check.checkLinks, List.map_eq_nil_iff, List.filter_eq_nil_iff]
  rintro ⟨number, inode⟩ member
  obtain ⟨node, inNodes, same⟩ := List.mem_map.mp member
  obtain ⟨rfl, -⟩ := Prod.mk.inj same
  dsimp only
  cases reserved : InodeNumber.isReserved node with
  | true => simp
  | false =>
      have free : InodeNumber.firstFree ≤ node := by
        simpa [InodeNumber.isReserved] using reserved
      have once : Check.linkCount (Check.addLinks [] (tree.linksOf nodes)) node = 1 := by
        refine UInt32.toNat_inj.mp ?_
        rw [Check.toNat_linkCount_nil, represents.wellFormed.count_linksOf nodup
          (fun other => (all other).mp) free ((all node).mpr inNodes)]
        rfl
      rw [once]
      simp

/-! The report -/

/-- The report on an image in order. -/
def cleanReport (geometry : Geometry) (disk : Disk) (tree : Tree) : CheckReport where
  findings := []
  allocatedBlocks := geometry.blocks - disk.counter .freeBlocks
  freeBlocks := disk.counter .freeBlocks
  liveInodes := (tree.liveNodes 0 geometry.inodeCount).length

theorem check_answers (represents : Represents volume.geometry disk tree chain) :
    Answers volume (volume.checkUnlocked overflow) disk
      (.ok (cleanReport volume.geometry disk tree)) := by
  have ledger := represents.stored.ledger
  let nodes := tree.liveNodes 0 volume.geometry.inodeCount
  have nodup : nodes.Nodup := Tree.nodup_liveNodes ..
  have all (node : Nat) : (tree node).IsLive ↔ node ∈ nodes := by
    rw [Tree.mem_liveNodes, Nat.zero_add]
    exact ⟨fun live => ⟨Nat.zero_le _, represents.wellFormed.lt_of_isLive live, live⟩,
      fun facts => facts.2.2⟩
  have inside : ∀ node ∈ nodes, node < volume.geometry.inodeCount := fun node member =>
    represents.wellFormed.lt_of_isLive ((all node).mpr member)
  let owners := Check.ownersAfter chain nodes []
  have owned (node : Nat) (live : (tree node).IsLive) (block : Nat) (member : block ∈ chain node) :
      owners.lookup block = some node :=
    Check.lookup_ownersAfter ledger.apart nodup ((all node).mp live) member
  have anchorOwned : owners.lookup volume.geometry.anchorBlock = some InodeNumber.anchor := by
    refine owned _ (represents.reserved_live rfl) _ ?_
    rw [ledger.anchored]
    exact List.mem_singleton_self _
  have free : (Superblock.current volume.geometry disk).freeBlocks.toNat =
      disk.counter .freeBlocks := by
    have total := Superblock.sizes_lt volume.geometry
    have sum := volume.geometry.totalBlocks_eq
    have counter := represents.counter_lt.1
    exact UInt64.toNat_ofNat_of_lt' (show _ < Limit.word64 by omega)
  have cursor : (Superblock.current volume.geometry disk).nextFreeInode.toNat =
      (tree.vacancy volume.geometry.inodeCount).getD 0 := by
    have table := volume.geometry.inodeCount_lt
    have counter := represents.counter_lt.2
    rw [← represents.slotCursor]
    exact UInt64.toNat_ofNat_of_lt' (show _ < Limit.word64 by omega)
  have clear : Bitmap.countClear disk.bitmap volume.geometry.blocks = disk.counter .freeBlocks := by
    rw [ledger.free]
    refine Bitmap.countClear_eq ?_
    rw [ledger.bitmap]
    exact volume.geometry.blocks_le_bitmap
  have lowest : Check.lowestVacant (tree.inodesOf chain nodes)
      (volume.geometry.inodeCount - InodeNumber.firstFree) InodeNumber.firstFree =
        tree.vacancy volume.geometry.inodeCount :=
    Tree.lowestVacant_inodesOf fun node _ _ => (all node).symm
  have cursorClean : Check.checkCursor volume.geometry (tree.inodesOf chain nodes)
      (Superblock.current volume.geometry disk).nextFreeInode.toNat = [] := by
    rw [Check.checkCursor, lowest, cursor]
    cases tree.vacancy volume.geometry.inodeCount <;> simp
  refine represents.readSuperblock_answers.damageOr.bind ?_
  refine Volume.readBitmap_answers.bind ?_
  refine (represents.scanFrom_answers (by omega)).bind ?_
  refine (represents.checkChains_answers nodup fun _ _ _ _ => rfl).bind ?_
  refine (represents.checkDirectories_answers (fun node => (all node).mp) inside
    (Check.room_of_nodup (represents.wellFormed.nodup_linksOf nodup))).bind ?_
  dsimp only
  rw [represents.agree, ledger.reserved, free, clear, cursorClean, Check.checkAnchor,
    if_pos anchorOwned, represents.unreachable_nil owned, represents.checkLinks_nil nodup all,
    Tree.inodesOf, List.length_map, if_pos rfl, if_pos rfl]
  exact .pure _

end Represents

end ImageFs
