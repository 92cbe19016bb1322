import ImageFs.Proofs.Session

/-!
Rows of operations on an image of which the tree is known. Main statements: a node is made, opened and
written as far as blocks are left, and the nodes that hold bytes tell how many are left.
-/

namespace ImageFs

/-! Room -/

/-- How many bytes a node holds. -/
def Node.extent (node : Node) : Nat :=
  match node.body with
  | .vacant => 0
  | .file content => content.length
  | .directory children => children.length * 256

theorem Stored.length_extent {volume : Volume} {disk : Disk} {tree : Tree} {chain : Nat → List Nat}
    (stored : Stored volume.geometry disk tree chain) (node : Nat) :
    (tree node).stored.length = (tree node).extent := by
  rw [Node.extent]
  cases body : (tree node).body with
  | vacant =>
      rw [Node.stored, body]
      rfl
  | file content =>
      rw [Node.stored, body]
      rfl
  | directory children => exact stored.length_stored body

namespace Tree

variable {tree : Tree} {nodes : List Nat} {node : Nat}

/-- No other nodes hold bytes. -/
def Confined (tree : Tree) (nodes : List Nat) : Prop :=
  ∀ node ∉ nodes, (tree node).extent = 0

/-- The blocks that nodes take up. -/
def blocksOf (tree : Tree) (geometry : Geometry) (nodes : List Nat) : Nat :=
  (nodes.map fun node => geometry.blocksFor (tree node).extent).sum

theorem confined_fresh (anchored : InodeNumber.anchor ∈ nodes) : Confined fresh nodes := by
  intro node outside
  rw [fresh]
  split
  · rfl
  · split
    · next isAnchor => exact absurd (isAnchor ▸ anchored) outside
    · rfl

namespace Confined

variable (confined : tree.Confined nodes)

include confined

theorem enter {parent : Nat} (inside : parent ∈ nodes) (slot : Nat) (name : String)
    (kind : FileKind) : (tree.enter parent slot name kind).Confined nodes := by
  intro node outside
  by_cases isSlot : node = slot
  · subst isSlot
    rw [Tree.enter, Function.update_self]
    cases kind <;> rfl
  · have different : node ≠ parent := fun same => outside (same ▸ inside)
    rw [Tree.enter, Function.update_of_ne isSlot, Function.update_of_ne different]
    exact confined node outside

theorem leave {parent : Nat} (inside : parent ∈ nodes) (position target : Nat) :
    (tree.leave parent position target).Confined nodes := by
  intro node outside
  by_cases isTarget : node = target
  · subst isTarget
    rw [Tree.leave, Function.update_self]
    rfl
  · have different : node ≠ parent := fun same => outside (same ▸ inside)
    rw [Tree.leave, Function.update_of_ne isTarget, Function.update_of_ne different]
    exact confined node outside

theorem setContent (inside : node ∈ nodes) (content : Bytes) :
    (tree.setContent node content).Confined nodes := by
  intro other outside
  have different : other ≠ node := fun same => outside (same ▸ inside)
  rw [Tree.setContent, Function.update_of_ne different]
  exact confined other outside

theorem room {geometry : Geometry} {disk : Disk} {chain : Nat → List Nat}
    (represents : Represents geometry disk tree chain) :
    geometry.blocks ≤ disk.counter .freeBlocks + tree.blocksOf geometry nodes := by
  have stored := represents.stored
  have extents (node : Nat) : (chain node).length = geometry.blocksFor (tree node).extent := by
    rw [stored.length, @Stored.length_extent (geometry.volume 0) _ _ _ stored]
  have others : ∀ node ∉ nodes, chain node = [] := by
    intro node outside
    apply List.eq_nil_of_length_eq_zero
    rw [extents, confined node outside, Geometry.blocksFor_zero]
  have enough := @Ledger.blocks_le (geometry.volume 0) _ _ stored.ledger _ others
  rw [List.length_flatMap, funext extents] at enough
  exact enough

end Confined

end Tree

namespace Session

variable {geometry : Geometry} {session : Session} {mounted : Host.Mounted} {tree : Tree}
  {nodes : List Nat}

theorem run_of_performs {index : Nat} {operation : Image.Operation} {after : Session}
    {answer : Except Halt Image.Answer}
    (performs : session.perform index operation = some (answer, after))
    (rest : List (Nat × Image.Operation)) :
    session.run ((index, operation) :: rest) = after.run rest := by
  rw [run, performs]

/-- The file is in order and holds the tree, in which only these nodes hold bytes, and the first image
is open on it. -/
structure Stands (geometry : Geometry) (session : Session) (mounted : Host.Mounted) (tree : Tree)
    (nodes : List Nat) : Prop where
  reachable : session.Reachable geometry
  isOpen : session.images[0]? = some mounted
  isTree : session.tree geometry = tree
  confined : tree.Confined nodes

theorem new_stands (short : geometry.imageLength < Limit.hostOffset)
    (anchored : InodeNumber.anchor ∈ nodes) : ∃ owner,
      Stands geometry (new geometry) ⟨⟨["image"]⟩, geometry.volume owner, .empty⟩ .fresh nodes := by
  obtain ⟨reachable, ⟨owner, images⟩, -, isTree⟩ := new_reachable short
  refine ⟨owner, reachable, ?_, isTree, Tree.confined_fresh anchored⟩
  rw [images]
  rfl

namespace Stands

variable (stands : Stands geometry session mounted tree nodes)

include stands

theorem room : geometry.blocks ≤
    (session.disk geometry).counter .freeBlocks + tree.blocksOf geometry nodes := by
  obtain ⟨chain, represents⟩ := stands.reachable.inOrder.represents
  rw [stands.isTree] at represents
  exact stands.confined.room represents

theorem perform {operation : Image.Operation} {answer : Except FsError Image.Answer}
    {files : OpenFiles} {tree' : Tree}
    (isOutcome : operation.outcome geometry (session.disk geometry) tree mounted.image.files =
      (answer, files, tree')) (confined : tree'.Confined nodes) :
    ∃ after, session.perform 0 operation = some (answer.mapError .failed, after) ∧
      Stands geometry after { mounted with image.files := files } tree' nodes := by
  rw [← stands.isTree] at isOutcome
  obtain ⟨after, performs, turns⟩ := stands.reachable.inOrder.yields stands.isOpen isOutcome
  exact ⟨after, performs, stands.reachable.perform performs, turns.isOpen stands.isOpen, turns.tree,
    confined⟩

theorem create {path : String} {kind : FileKind} {parents : List String} {name : String}
    {parent slot : Nat} {children : List Child} (split : Path.splitLast path = .ok (parents, name))
    (found : tree.directory? parents = some (parent, children))
    (isNew : tree.child? parent name = none) (vacant : tree.vacancy geometry.inodeCount = some slot)
    (inside : parent ∈ nodes)
    (enough : Tree.extraBlocks geometry (children.length * 256) ((children.length + 1) * 256) +
      tree.blocksOf geometry nodes ≤ geometry.blocks) :
    ∃ after, session.perform 0 (.create path kind) = some (.ok .done, after) ∧
      Stands geometry after mounted (tree.enter parent slot name kind) nodes := by
  have left : Tree.extraBlocks geometry (children.length * 256) ((children.length + 1) * 256) ≤
      (session.disk geometry).counter .freeBlocks :=
    Nat.le_of_add_le_add_right (Nat.le_trans enough stands.room)
  have creates : tree.create geometry ((session.disk geometry).counter .freeBlocks) path kind =
      (.ok slot, tree.enter parent slot name kind) := by
    simp only [Tree.create, split, found, isNew, vacant]
    exact if_neg (Nat.not_lt.mpr left)
  have isOutcome : (Image.Operation.create path kind).outcome geometry (session.disk geometry) tree
      mounted.image.files = (.ok .done, mounted.image.files, tree.enter parent slot name kind) := by
    rw [Image.Operation.outcome, creates]
    rfl
  exact stands.perform isOutcome (stands.confined.enter inside slot name kind)

theorem openFile {path : String} {mode : AccessMode} {node : Nat} {content : Bytes}
    (leads : Represents.resolved tree path = .ok node) (body : (tree node).body = .file content)
    (few : OpenFiles.lowestFree mounted.image.files.slots < Limit.word32) :
    let file : OpenFile := ⟨node, (tree node).generation, (tree node).name, 0, mode⟩
    ∃ after, session.perform 0 (.openFile path mode) =
        some (.ok (.handle (OpenFiles.lowestFree mounted.image.files.slots)), after) ∧
      Stands geometry after
        { mounted with image.files := (mounted.image.files.insert file).2 } tree nodes := by
  intro file
  have opened : tree.opened path mode = .ok file := by
    rw [Tree.opened, leads]
    simp only [body]
    rfl
  have isOutcome : (Image.Operation.openFile path mode).outcome geometry (session.disk geometry) tree
      mounted.image.files = (.ok (.handle (OpenFiles.lowestFree mounted.image.files.slots)),
        (mounted.image.files.insert file).2, tree) := by
    rw [Image.Operation.outcome, opened]
    dsimp only
    rw [OpenFiles.insert, if_pos few]
    rfl
  exact stands.perform isOutcome stands.confined

theorem write {handle : Nat} {file : OpenFile} {content bytes : Bytes}
    (isFile : mounted.image.files.get handle = .ok file) (writable : file.mode.canWrite = true)
    (live : tree.contentOf file = some content)
    (addressable : Tree.writeOffset file content + bytes.length < Limit.word64)
    (inside : file.inode ∈ nodes)
    (enough : Tree.extraBlocks geometry content.length
        (content.written (Tree.writeOffset file content) bytes).length +
      tree.blocksOf geometry nodes ≤ geometry.blocks) :
    let stop := Tree.writeOffset file content + bytes.length
    let written := content.written (Tree.writeOffset file content) bytes
    ∃ after, session.perform 0 (.write handle bytes) = some (.ok .done, after) ∧
      Stands geometry after
        { mounted with image.files := mounted.image.files.moved handle file stop }
        (tree.setContent file.inode written) nodes := by
  intro stop written
  have left : Tree.extraBlocks geometry content.length written.length ≤
      (session.disk geometry).counter .freeBlocks :=
    Nat.le_of_add_le_add_right (Nat.le_trans enough stands.room)
  have writes : tree.write geometry ((session.disk geometry).counter .freeBlocks) file bytes =
      (.ok stop, tree.setContent file.inode written) := by
    rw [Tree.write, live]
    dsimp only
    rw [if_neg (Nat.not_le.mpr addressable)]
    exact if_neg (Nat.not_lt.mpr left)
  have isOutcome : (Image.Operation.write handle bytes).outcome geometry (session.disk geometry) tree
      mounted.image.files = (.ok .done, mounted.image.files.moved handle file stop,
        tree.setContent file.inode written) := by
    rw [Image.Operation.outcome, isFile]
    dsimp only
    rw [if_neg (by simp [writable]), writes]
  exact stands.perform isOutcome (stands.confined.setContent inside written)

end Stands

/-! A file below a directory -/

/-- Sizes with room for some directories and files. -/
def ample : Geometry :=
  { smallest with blocks := 8, blocks_pos := by decide, addressable := by decide }

/-- A new image with a directory and a file of two bytes in it. -/
def nested : Session :=
  (new ample).run [(0, .create "/a" .directory), (0, .create "/a/b" .file),
    (0, .openFile "/a/b" .readWrite), (0, .write 0 [1, 2])]

def nestedFile : OpenFile :=
  ⟨3, 0, "b", 2, .readWrite⟩

def nestedTree : Tree :=
  ((Tree.fresh.enter 0 2 "a" .directory).enter 2 3 "b" .file).setContent 3 [1, 2]

theorem nested_stands : ∃ owner,
    Stands ample nested ⟨⟨["image"]⟩, ample.volume owner, ⟨[some nestedFile]⟩⟩ nestedTree
      [0, 1, 2, 3] := by
  obtain ⟨owner, stands⟩ := @new_stands ample [0, 1, 2, 3] (by decide) (by decide)
  have split : Path.splitLast "/a" = .ok ([], "a") := by decide +kernel
  have split' : Path.splitLast "/a/b" = .ok (["a"], "b") := by decide +kernel
  have components : Path.components "/a/b" = .ok ["a", "b"] := by decide +kernel
  obtain ⟨first, performs, stands⟩ :=
    @Stands.create _ _ _ _ _ stands _ .directory _ _ _ _ _ split rfl rfl rfl (by decide) (by decide)
  obtain ⟨second, performs', stands⟩ :=
    @Stands.create _ _ _ _ _ stands _ .file _ _ _ _ _ split' rfl rfl rfl (by decide) (by decide)
  have leads : Represents.resolved
      ((Tree.fresh.enter 0 2 "a" .directory).enter 2 3 "b" .file) "/a/b" = .ok 3 := by
    rw [Represents.resolved, components]
    rfl
  obtain ⟨third, performs'', stands⟩ :=
    @Stands.openFile _ _ _ _ _ stands _ .readWrite _ _ leads rfl
      (show 0 < Limit.word32 by decide)
  obtain ⟨fourth, performs''', stands⟩ :=
    @Stands.write _ _ _ _ _ stands 0 _ [] [1, 2] rfl rfl rfl (by decide) (by decide) (by decide)
  have isNested : nested = fourth := by
    rw [nested, run_of_performs performs, run_of_performs performs', run_of_performs performs'',
      run_of_performs performs''']
    rfl
  rw [isNested]
  exact ⟨owner, stands⟩

end Session

end ImageFs
