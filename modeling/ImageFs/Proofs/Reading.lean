import ImageFs.Proofs.Format
import ImageFs.Proofs.Hold

/-!
Reading the tree off a file, slot by slot. Main statement: on an image at rest and in order this gives
the tree that the disk stands for.
-/

namespace ImageFs

namespace Volume

variable (volume : Volume)

def readBody (number : Nat) (inode : Inode) : Query Body :=
  match inode.kind with
  | .empty => pure .vacant
  | .directory => do
      let entries ← volume.list number
      return .directory (entries.map fun entry => ⟨entry.name, entry.inode.toNat⟩)
  | .file => do
      let chain ← volume.chain inode.firstBlock.toNat
      return .file (← volume.readChain chain 0 inode.size.toNat)

/-- What is in a slot of the inode table, with all the bytes of a file and all the entries of a
directory. -/
def readNode (number : Nat) : Query Node := do
  let inode ← volume.getInode number
  return {
    name := inode.name
    generation := inode.generation
    body := ← volume.readBody number inode }

def readTree (backing : Backing) : Tree := fun number =>
  match volume.readNode number backing with
  | .ok node => node
  | .error _ => .vacant 0

end Volume

variable {volume : Volume} {disk : Disk} {tree : Tree} {chain : Nat → List Nat} {backing : Backing}

namespace Represents

theorem readBody_answers (represents : Represents volume.geometry disk tree chain) {node : Nat}
    (inside : node < volume.geometry.inodeCount) (notAnchor : node ≠ InodeNumber.anchor) :
    Answers volume (volume.readBody node ((tree node).inode (chain node))) disk
      (.ok (tree node).body) := by
  have stored := represents.stored
  rw [Volume.readBody]
  cases body : (tree node).body with
  | vacant =>
      have kind : ((tree node).inode (chain node)).kind = .empty := by
        rw [Node.inode, body]
        rfl
      rw [kind]
      exact .pure _
  | directory children =>
      have kind : ((tree node).inode (chain node)).kind = .directory := by
        rw [Node.inode, body]
        rfl
      have entries : ((children.map Child.entry).map fun entry =>
          (⟨entry.name, entry.inode.toNat⟩ : Child)) = children := by
        rw [List.map_map]
        refine (List.map_congr_left fun child member => ?_).trans (List.map_id _)
        exact congrArg (Child.mk child.name) (stored.entry_inode body member)
      rw [kind]
      refine (stored.list_answers body inside).bind ?_
      rw [entries]
      exact .pure _
  | file content =>
      have kind : ((tree node).inode (chain node)).kind = .file := by
        rw [Node.inode, body]
        rfl
      have whole : (((tree node).stored.drop 0).take (tree node).stored.length) = content := by
        rw [List.drop_zero, List.take_length, stored_of_file body]
      rw [kind]
      refine (stored.chain_answers node).bind ?_
      rw [stored.size_toNat]
      refine (stored.readChain_answers notAnchor (Nat.le_of_eq (Nat.zero_add _))).bind ?_
      rw [whole]
      exact .pure _

/-- The bytes of the anchor count the holders, which are none. -/
theorem readAnchor_apply (represents : Represents volume.geometry disk tree chain)
    (rest : volume.AtRest backing) (shows : Disk.of volume.geometry backing.content = disk) :
    volume.readBody InodeNumber.anchor
      ((tree InodeNumber.anchor).inode (chain InodeNumber.anchor)) backing =
        .ok (tree InodeNumber.anchor).body := by
  have ready := rest.ready
  have stored := represents.stored
  have isData := volume.geometry.isData_anchorBlock
  have minimum := volume.geometry.minimum
  have sum := volume.geometry.payloadSize_add
  have isChain := stored.chain_answers InodeNumber.anchor backing ready shows
  have inside : volume.geometry.anchorBlock * volume.geometry.blockSize + 8 ≤
      volume.geometry.imageLength :=
    Nat.le_trans (Nat.add_le_add_left (by omega) _) (volume.geometry.data_end_le isData)
  have zeros : backing.content.read (volume.geometry.anchorBlock * volume.geometry.blockSize) 8 =
      .zeros 8 := by
    have bytes := Bytes.eq_zeros_of_toNat rest.holders
    rwa [Disk.length_area] at bytes
  have pieces : volume.pieces [volume.geometry.anchorBlock] 0 8 =
      .ok [⟨volume.geometry.anchorBlock, 0, 8⟩] := by
    rw [Volume.pieces_of_fits (by rw [List.length_singleton]; omega)]
    simp only [Piece.cover]
    rw [if_neg (by decide), if_neg (by omega), Nat.min_eq_right (by omega)]
  have reads : volume.readChain [volume.geometry.anchorBlock] 0 8 backing = .ok (.zeros 8) := by
    rw [Volume.readChain, pieces]
    change (volume.readPieces [_]) backing = _
    rw [Volume.readPieces, volume.blockOffset_of_isData isData]
    refine (Query.bind_ok (Query.lift_ok _ _)).trans ?_
    refine (Query.bind_ok (volume.read_apply ready inside)).trans ?_
    rw [zeros]
    rfl
  rw [stored.anchor, stored.ledger.anchored] at isChain ⊢
  refine (Query.bind_ok isChain).trans ?_
  exact (Query.bind_ok reads).trans rfl

/-- Reading an image in order gives the tree that it stands for. -/
theorem readTree_eq (represents : Represents volume.geometry disk tree chain)
    (rest : volume.AtRest backing) (shows : Disk.of volume.geometry backing.content = disk) :
    volume.readTree backing = tree := by
  funext node
  have ready := rest.ready
  rw [Volume.readTree]
  by_cases inside : node < volume.geometry.inodeCount
  · have inode := represents.stored.getInode_answers inside backing ready shows
    have body : volume.readBody node ((tree node).inode (chain node)) backing =
        .ok (tree node).body := by
      by_cases isAnchor : node = InodeNumber.anchor
      · subst isAnchor
        exact represents.readAnchor_apply rest shows
      · exact represents.readBody_answers inside isAnchor backing ready shows
    have reads : volume.readNode node backing = .ok (tree node) := by
      rw [Volume.readNode, Query.bind_ok inode, Query.bind_ok body]
      rfl
    rw [reads]
  · have outside := Nat.not_lt.mp inside
    have inode := @Stored.getInode_answers_error volume disk node outside backing ready shows
    rw [Volume.readNode, Query.bind_error inode, represents.wellFormed.beyond node outside]

end Represents

end ImageFs
