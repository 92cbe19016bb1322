import ImageFs.Proofs.Paths
import ImageFs.Proofs.Rows

/-!
The namespace. Main statement: in every reachable state the paths name the nodes of a tree of directories
with ordered children, and the operations by path answer from this tree and change it in the places
that the path names.
-/

namespace ImageFs

namespace Tree

variable {tree : Tree} {parent slot position target : Nat} {name : String} {kind : FileKind}

theorem enter_parent (different : slot ≠ parent) :
    tree.enter parent slot name kind parent =
      { tree parent with body := .directory ((tree parent).children ++ [⟨name, slot⟩]) } := by
  rw [enter, Function.update_of_ne (Ne.symm different), Function.update_self]

theorem enter_slot : tree.enter parent slot name kind slot =
    { name, generation := (tree slot).generation, body := kind.emptyBody } := by
  rw [enter, Function.update_self]

theorem leave_parent (different : target ≠ parent) :
    tree.leave parent position target parent =
      { tree parent with body := .directory (moveLast (tree parent).children position) } := by
  rw [leave, Function.update_of_ne (Ne.symm different), Function.update_self]

theorem create_of_directory {path : String} {parents : List String} {children : List Child}
    (split : Path.splitLast path = .ok (parents, name))
    (found : tree.directory? parents = some (parent, children)) (geometry : Geometry) (free : Nat)
    (kind : FileKind) :
    tree.create geometry free path kind =
      if name ∈ children.map Child.name then (.error .alreadyExists, tree)
      else
        match tree.vacancy geometry.inodeCount with
        | none => (.error .noFreeInodes, tree)
        | some slot =>
            if free < extraBlocks geometry (children.length * 256) ((children.length + 1) * 256) then
              (.error .noFreeBlocks, tree.vacate slot)
            else (.ok slot, tree.enter parent slot name kind) := by
  have isChildren : (tree parent).children = children :=
    Node.children_of_directory (directory?_eq_some.mp found).2
  have isTaken : (tree.child? parent name).isSome = true ↔ name ∈ children.map Child.name := by
    rw [← isChildren, Option.isSome_iff_ne_none, ne_eq, child?_eq_none, not_not]
  rw [create, split]
  dsimp only
  rw [found]
  dsimp only
  exact if_congr isTaken rfl rfl

theorem entry_of_resolve {names : List String} (leads : tree.resolve (names ++ [name]) = some target) :
    ∃ directory children position, tree.directory? names = some (directory, children) ∧
      children[position]? = some ⟨name, target⟩ ∧ children.findIdx (·.name = name) = position := by
  rw [resolve_concat, Option.bind_eq_some_iff] at leads
  obtain ⟨directory, leads, isChild⟩ := leads
  rw [child?, Option.map_eq_some_iff] at isChild
  obtain ⟨child, found, rfl⟩ := isChild
  have body := Node.directory_of_mem_children (List.mem_of_find?_eq_some found)
  have isName : child.name = name := by simpa using List.find?_some found
  rw [List.find?_eq_bind_findIdx?_getElem?, Option.bind_eq_some_iff] at found
  obtain ⟨position, isPosition, isChild⟩ := found
  refine ⟨directory, _, position, directory?_eq_some.mpr ⟨leads, body⟩, ?_,
    (List.findIdx?_eq_some_iff_findIdx_eq.mp isPosition).2⟩
  rw [isChild, ← isName]

theorem remove_of_none {path : String} {parents : List String}
    (split : Path.splitLast path = .ok (parents, name))
    (missing : tree.resolve (parents ++ [name]) = none) :
    tree.remove path = (.error (.noSuchFile path), tree) := by
  rw [remove, split]
  dsimp only
  cases found : tree.directory? parents with
  | none => rfl
  | some directory =>
      have leads := (directory?_eq_some.mp found).1
      have none : tree.child? directory.1 name = none := by
        rwa [resolve_concat, leads] at missing
      dsimp only
      rw [none]

theorem remove_of_resolve {path : String} {parents : List String}
    (split : Path.splitLast path = .ok (parents, name))
    (leads : tree.resolve (parents ++ [name]) = some target) :
    ∃ parent children position, tree.directory? parents = some (parent, children) ∧
      children[position]? = some ⟨name, target⟩ ∧
      tree.remove path =
        if (tree target).children ≠ [] then (.error .directoryNotEmpty, tree)
        else (.ok (), tree.leave parent position target) := by
  obtain ⟨parent, children, position, found, isChild, isPosition⟩ := entry_of_resolve leads
  have isChild? : tree.child? parent name = some target := by
    have leads' := (directory?_eq_some.mp found).1
    rwa [resolve_concat, leads'] at leads
  refine ⟨parent, children, position, found, isChild, ?_⟩
  rw [remove, split]
  dsimp only
  rw [found]
  dsimp only
  rw [isChild?, isPosition]

end Tree

namespace Session

variable {geometry : Geometry} {session : Session} {index : Nat} {mounted : Host.Mounted}

/-- The operation fails and leaves the open files and the tree as they are. -/
def Fails (geometry : Geometry) (session : Session) (index : Nat) (mounted : Host.Mounted)
    (operation : Image.Operation) (error : FsError) : Prop :=
  Yields geometry session index mounted operation (.error error) mounted.image.files
    (session.tree geometry)

/-- Making a node appends an empty one to its directory, in the lowest vacant slot. The tests stand in the
order in which they are made. -/
def CreatesNode (geometry : Geometry) (session : Session) (index : Nat) (mounted : Host.Mounted)
    (path : String) (kind : FileKind) : Prop :=
  let tree := session.tree geometry
  let operation := Image.Operation.create path kind
  (∀ error, Path.splitLast path = .error error →
    Fails geometry session index mounted operation error) ∧
  ∀ parents name, Path.splitLast path = .ok (parents, name) →
    (tree.directory? parents = none → Fails geometry session index mounted operation
      (match kind with
        | .file => .noSuchDirectory path
        | .directory => .noParent path)) ∧
    ∀ parent children, tree.directory? parents = some (parent, children) →
      (name ∈ children.map Child.name →
        Fails geometry session index mounted operation .alreadyExists) ∧
      (name ∉ children.map Child.name →
        (tree.vacancy geometry.inodeCount = none →
          Fails geometry session index mounted operation .noFreeInodes) ∧
        ∀ slot, tree.vacancy geometry.inodeCount = some slot →
          let full := session.word Superblock.freeBlocksOffset = 0 ∧
            geometry.blocksFor (children.length * recordLength) <
              geometry.blocksFor ((children.length + 1) * recordLength)
          (full →
            Yields geometry session index mounted operation (.error .noFreeBlocks)
              mounted.image.files (tree.vacate slot)) ∧
          (¬ full → ∃ tree',
            Yields geometry session index mounted operation (.ok .done) mounted.image.files tree' ∧
            tree' parent = { tree parent with body := .directory (children ++ [⟨name, slot⟩]) } ∧
            tree' slot = {
              name
              generation := (tree slot).generation
              body := kind.emptyBody } ∧
            ∀ other, other ≠ parent → other ≠ slot → tree' other = tree other))

/-- Removing a node takes exactly its entry out of its directory, where the last entry takes the place,
and empties its slot. -/
def RemovesNode (geometry : Geometry) (session : Session) (index : Nat) (mounted : Host.Mounted)
    (path : String) : Prop :=
  let tree := session.tree geometry
  let operation := Image.Operation.remove path
  (∀ error, Path.splitLast path = .error error →
    Fails geometry session index mounted operation error) ∧
  ∀ parents name, Path.splitLast path = .ok (parents, name) →
    (tree.resolve (parents ++ [name]) = none →
      Fails geometry session index mounted operation (.noSuchFile path)) ∧
    ∀ target, tree.resolve (parents ++ [name]) = some target →
      ((tree target).children ≠ [] →
        Fails geometry session index mounted operation .directoryNotEmpty) ∧
      ((tree target).children = [] → ∃ tree' parent children position,
        Yields geometry session index mounted operation (.ok .done) mounted.image.files tree' ∧
        tree.directory? parents = some (parent, children) ∧
        children[position]? = some ⟨name, target⟩ ∧
        tree' parent = { tree parent with
          body := .directory (Tree.moveLast children position) } ∧
        tree' target = .vacant ((tree target).generation + 1) ∧
        ∀ other, other ≠ parent → other ≠ target → tree' other = tree other)

/-- Questions about a path are answered from the node that it names. -/
def AnswersPath (geometry : Geometry) (session : Session) (index : Nat) (mounted : Host.Mounted)
    (path : String) (mode : AccessMode) : Prop :=
  let tree := session.tree geometry
  let files := mounted.image.files
  let allFail (error : FsError) := Fails geometry session index mounted (.stat path) error ∧
    Fails geometry session index mounted (.readDirectory path) error ∧
    Fails geometry session index mounted (.openFile path mode) error
  (∀ error, Path.components path = .error error → allFail error) ∧
  ∀ names, Path.components path = .ok names →
    (tree.resolve names = none → allFail (.noSuchFile path)) ∧
    ∀ node, tree.resolve names = some node →
      Yields geometry session index mounted (.stat path)
        (.ok (.stat {
          inode := node
          name := (tree node).name
          kind := (tree node).kind
          size := (tree node).stored.length
          blocks := geometry.blocksFor (tree node).stored.length })) files tree ∧
      (∀ children, (tree node).body = .directory children →
        Yields geometry session index mounted (.readDirectory path)
          (.ok (.entries (children.map tree.listed))) files tree ∧
        Fails geometry session index mounted (.openFile path mode) .isDirectory) ∧
      ∀ content, (tree node).body = .file content →
        let file : OpenFile := ⟨node, (tree node).generation, (tree node).name, 0, mode⟩
        Fails geometry session index mounted (.readDirectory path) .notDirectory ∧
        Yields geometry session index mounted (.openFile path mode)
          ((files.insert file).1.map .handle) (files.insert file).2 tree

/-- The paths name the nodes of a tree, and the operations by path are operations on it. -/
structure NamesTree (geometry : Geometry) (session : Session) (index : Nat)
    (mounted : Host.Mounted) : Prop where
  wellFormed : (session.tree geometry).WellFormed geometry.inodeCount
  named (node : Nat) (live : (session.tree geometry node).IsLive)
    (notAnchor : node ≠ InodeNumber.anchor) :
    ∃! names, (session.tree geometry).resolve names = some node
  creates (path : String) (kind : FileKind) : CreatesNode geometry session index mounted path kind
  removes (path : String) : RemovesNode geometry session index mounted path
  answers (path : String) (mode : AccessMode) :
    AnswersPath geometry session index mounted path mode

theorem InOrder.create_yields (order : session.InOrder geometry)
    (isOpen : session.images[index]? = some mounted) {path : String} {kind : FileKind}
    {result : Except FsError Nat × Tree}
    (creates : (session.tree geometry).create geometry (session.word Superblock.freeBlocksOffset) path
      kind = result) :
    Yields geometry session index mounted (.create path kind) (result.1.map fun _ => .done)
      mounted.image.files result.2 := by
  subst creates
  exact order.yields isOpen rfl

theorem InOrder.remove_yields (order : session.InOrder geometry)
    (isOpen : session.images[index]? = some mounted) {path : String}
    {result : Except FsError Unit × Tree}
    (removes : (session.tree geometry).remove path = result) :
    Yields geometry session index mounted (.remove path) (result.1.map fun _ => .done)
      mounted.image.files result.2 := by
  subst removes
  exact order.yields isOpen rfl

theorem InOrder.openFile_fails (order : session.InOrder geometry)
    (isOpen : session.images[index]? = some mounted) {path : String} {mode : AccessMode}
    {error : FsError} (opened : (session.tree geometry).opened path mode = .error error) :
    Fails geometry session index mounted (.openFile path mode) error := by
  refine order.yields isOpen ?_
  rw [outcome, Image.Operation.outcome, opened]

theorem InOrder.stat_yields (order : session.InOrder geometry)
    (isOpen : session.images[index]? = some mounted) {path : String}
    {answer : Except FsError FileStat}
    (stats : (session.tree geometry).stat geometry path = answer) :
    Yields geometry session index mounted (.stat path) (answer.map .stat) mounted.image.files
      (session.tree geometry) := by
  subst stats
  exact order.yields isOpen rfl

theorem InOrder.readDirectory_yields (order : session.InOrder geometry)
    (isOpen : session.images[index]? = some mounted) {path : String}
    {answer : Except FsError (List ListedEntry)}
    (lists : (session.tree geometry).list path = answer) :
    Yields geometry session index mounted (.readDirectory path) (answer.map .entries)
      mounted.image.files (session.tree geometry) := by
  subst lists
  exact order.yields isOpen rfl

theorem blocksFor_entry (geometry : Geometry) (count : Nat) :
    geometry.blocksFor ((count + 1) * recordLength) ≤ geometry.blocksFor (count * recordLength) + 1 := by
  have minimum := geometry.minimum
  have sum := geometry.payloadSize_add
  have fits : recordLength ≤ geometry.payloadSize := by
    simp only [recordLength]
    omega
  refine ceilDiv_le_of_le_mul geometry.payloadSize_pos ?_
  rw [Nat.succ_mul, Nat.succ_mul]
  exact Nat.add_le_add (geometry.le_blocksFor (count * recordLength)) fits

theorem InOrder.createsNode (order : session.InOrder geometry)
    (isOpen : session.images[index]? = some mounted) (path : String) (kind : FileKind) :
    CreatesNode geometry session index mounted path kind := by
  obtain ⟨chain, represents⟩ := order.represents
  let tree := session.tree geometry
  let free := session.word Superblock.freeBlocksOffset
  refine ⟨fun error split => ?_, fun parents name split => ⟨fun missing => ?_, ?_⟩⟩
  · have creates : tree.create geometry free path kind = (.error error, tree) := by
      rw [Tree.create, split]
    exact order.create_yields isOpen creates
  · have creates : tree.create geometry free path kind =
        (.error (Volume.missingParent path kind.toInodeKind), tree) := by
      rw [Tree.create, split]
      dsimp only
      rw [missing]
    have yields := order.create_yields isOpen creates
    cases kind <;> exact yields
  · intro parent children found
    have body := (Tree.directory?_eq_some.mp found).2
    have isChildren : (tree parent).children = children := Node.children_of_directory body
    have creates := Tree.create_of_directory split found geometry free kind
    refine ⟨fun taken => ?_, fun fresh => ⟨fun noSlot => ?_, fun slot vacancy => ?_⟩⟩
    · rw [if_pos taken] at creates
      exact order.create_yields isOpen creates
    · rw [if_neg fresh, noSlot] at creates
      exact order.create_yields isOpen creates
    · intro full
      have grows := blocksFor_entry geometry children.length
      have isFull : free < Tree.extraBlocks geometry (children.length * 256)
          ((children.length + 1) * 256) ↔ full := by
        change free < geometry.blocksFor ((children.length + 1) * recordLength) -
          geometry.blocksFor (children.length * recordLength) ↔ free = 0 ∧ _ < _
        omega
      rw [if_neg fresh, vacancy] at creates
      dsimp only at creates
      refine ⟨fun holds => ?_, fun fails => ?_⟩
      · rw [if_pos (isFull.mpr holds)] at creates
        exact order.create_yields isOpen creates
      · rw [if_neg fun less => fails (isFull.mp less)] at creates
        have different := @Represents.slot_ne_parent (geometry.volume 0) _ _ _ _ body vacancy
        refine ⟨tree.enter parent slot name kind, order.create_yields isOpen creates, ?_,
          Tree.enter_slot, fun other => ?_⟩
        · rw [Tree.enter_parent different, isChildren]
        · exact fun notParent notSlot => Tree.WellFormed.enter_of_ne notSlot notParent

theorem InOrder.removesNode (order : session.InOrder geometry)
    (isOpen : session.images[index]? = some mounted) (path : String) :
    RemovesNode geometry session index mounted path := by
  let tree := session.tree geometry
  refine ⟨fun error split => ?_, fun parents name split => ⟨fun missing => ?_, fun target leads => ?_⟩⟩
  · have removes : tree.remove path = (.error error, tree) := by
      rw [Tree.remove, split]
    exact order.remove_yields isOpen removes
  · exact order.remove_yields isOpen (Tree.remove_of_none split missing)
  · obtain ⟨parent, children, position, found, isChild, removes⟩ := Tree.remove_of_resolve split leads
    have body := (Tree.directory?_eq_some.mp found).2
    refine ⟨fun inUse => ?_, fun leaf => ?_⟩
    · rw [if_pos inUse] at removes
      exact order.remove_yields isOpen removes
    · rw [if_neg (not_not.mpr leaf)] at removes
      have different : target ≠ parent := by
        rintro rfl
        rw [Node.children_of_directory body] at leaf
        subst leaf
        cases isChild
      refine ⟨tree.leave parent position target, parent, children, position,
        order.remove_yields isOpen removes, found, isChild, ?_, Tree.WellFormed.leave_target,
        fun other notParent notTarget => Tree.WellFormed.leave_of_ne notTarget notParent⟩
      rw [Tree.leave_parent different, Node.children_of_directory body]

theorem InOrder.answersPath (order : session.InOrder geometry)
    (isOpen : session.images[index]? = some mounted) (path : String) (mode : AccessMode) :
    AnswersPath geometry session index mounted path mode := by
  let tree := session.tree geometry
  have fails {error : FsError} (resolved : Represents.resolved tree path = .error error) :
      Fails geometry session index mounted (.stat path) error ∧
        Fails geometry session index mounted (.readDirectory path) error ∧
        Fails geometry session index mounted (.openFile path mode) error := by
    have stats : tree.stat geometry path = .error error := by
      rw [Tree.stat, resolved]
      rfl
    have lists : tree.list path = .error error := by
      rw [Tree.list, resolved]
    have opened : tree.opened path mode = .error error := by
      rw [Tree.opened, resolved]
    exact ⟨order.stat_yields isOpen stats, order.readDirectory_yields isOpen lists,
      order.openFile_fails isOpen opened⟩
  refine ⟨fun error components => fails ?_, fun names components => ⟨fun missing => fails ?_, ?_⟩⟩
  · rw [Represents.resolved, components]
  · rw [Represents.resolved, components]
    dsimp only
    rw [missing]
  · intro node leads
    have resolved : Represents.resolved tree path = .ok node := by
      rw [Represents.resolved, components]
      dsimp only
      rw [leads]
    refine ⟨?_, fun children body => ⟨?_, ?_⟩, fun content body => ⟨?_, ?_⟩⟩
    · have stats : tree.stat geometry path = .ok {
          inode := node
          name := (tree node).name
          kind := (tree node).kind
          size := (tree node).stored.length
          blocks := geometry.blocksFor (tree node).stored.length } := by
        rw [Tree.stat, resolved]
        rfl
      exact order.stat_yields isOpen stats
    · have lists : tree.list path = .ok (children.map tree.listed) := by
        rw [Tree.list, resolved]
        dsimp only
        rw [body]
      exact order.readDirectory_yields isOpen lists
    · refine order.openFile_fails isOpen ?_
      rw [Tree.opened, resolved]
      dsimp only
      rw [body]
    · have lists : tree.list path = .error .notDirectory := by
        rw [Tree.list, resolved]
        dsimp only
        rw [body]
      exact order.readDirectory_yields isOpen lists
    · refine order.yields isOpen ?_
      rw [outcome, Image.Operation.outcome, Tree.opened, resolved]
      dsimp only
      rw [body]

/-- In every reachable state the paths name the nodes of a tree, which the operations by path read and
change. -/
theorem reachable_namesTree (reachable : Reachable geometry session)
    (isOpen : session.images[index]? = some mounted) :
    NamesTree geometry session index mounted := by
  have order := reachable.inOrder
  obtain ⟨chain, represents⟩ := order.represents
  have wellFormed := represents.wellFormed
  refine ⟨wellFormed, fun node live notAnchor => ?_, order.createsNode isOpen,
    order.removesNode isOpen, order.answersPath isOpen⟩
  obtain ⟨names, leads⟩ := wellFormed.exists_resolve live notAnchor
  exact ⟨names, leads, fun names' leads' => wellFormed.resolve_inj leads' leads⟩

/-- The paths of an image name its nodes, among them a file in a directory, also after another
directory has been made and removed. -/
theorem nested_namesTree :
    let session := nested.run [(0, .create "/c" .directory), (0, .remove "/c")]
    ∃ mounted, session.images[0]? = some mounted ∧
      (session.tree ample).resolve ["a", "b"] = some 3 ∧ NamesTree ample session 0 mounted := by
  intro session
  obtain ⟨owner, stands⟩ := nested_stands
  have split : Path.splitLast "/c" = .ok ([], "c") := by decide +kernel
  have vacant : nestedTree.vacancy ample.inodeCount = some 4 := by decide +kernel
  obtain ⟨first, performs, stands⟩ :=
    @Stands.create _ _ _ _ _ stands _ .directory _ _ _ _ _ split rfl rfl vacant (by decide) (by decide)
  have removed : (Image.Operation.remove "/c").outcome ample (first.disk ample)
      (nestedTree.enter 0 4 "c" .directory) ⟨[some nestedFile]⟩ =
        (.ok .done, ⟨[some nestedFile]⟩, (nestedTree.enter 0 4 "c" .directory).leave 0 1 4) := by
    rw [Image.Operation.outcome, Tree.remove, split]
    rfl
  obtain ⟨second, performs', stands⟩ :=
    stands.perform removed (stands.confined.leave (by decide) 1 4)
  have isSecond : session = second := by
    rw [show session = nested.run _ from rfl, run_of_performs performs, run_of_performs performs']
    rfl
  rw [isSecond]
  refine ⟨_, stands.isOpen, ?_, reachable_namesTree stands.reachable stands.isOpen⟩
  rw [stands.isTree]
  rfl

end Session

end ImageFs
