import ImageFs.Proofs.Ledger
import ImageFs.Proofs.Tree

/-!
What a disk stands for: a tree whose nodes have their records in the inode table and their content in
chains. Main statements: reading inodes and directories from the disk answers from the tree, following
names on the disk follows them in the tree, and a node is changed by changing its chain and its record.
-/

namespace ImageFs

open Function (update)

/-! Nodes as they are stored -/

def Body.kind : Body → InodeKind
  | vacant => .empty
  | file _ => .file
  | directory _ => .directory

def Child.entry (child : Child) : DirEntry where
  name := child.name
  inode := UInt64.ofNat child.inode

def Body.stored : Body → Bytes
  | vacant => []
  | file content => content
  | directory children => children.flatMap (·.entry.record)

def Node.stored (node : Node) : Bytes :=
  node.body.stored

/-- The inode of a node whose bytes lie in a chain. -/
def Node.inode (node : Node) (chain : List Nat) : Inode where
  name := node.name
  kind := node.body.kind
  generation := node.generation
  size := UInt64.ofNat node.stored.length
  firstBlock := UInt64.ofNat (chain.headD 0)

/-- The bytes of a new superblock that never change. -/
def Disk.fixed (geometry : Geometry) (position : Nat) : UInt8 :=
  if Area.Outside geometry position then ((Superblock.fresh geometry).encode[position]?).getD 0
  else 0

/-- The nodes lie on the disk, each with its record and its chain. -/
structure Stored (geometry : Geometry) (disk : Disk) (tree : Tree) (chain : Nat → List Nat) :
    Prop where
  lockable : geometry.imageLength ≤ Limit.hostOffset
  ledger : Ledger geometry disk chain
  fits : ∀ node, NameFits (tree node).name
  child : ∀ node, ∀ child ∈ (tree node).children,
    NameFits child.name ∧ child.inode < geometry.inodeCount
  anchor : tree InodeNumber.anchor = .anchor
  record : ∀ node < geometry.inodeCount,
    disk.record node = ((tree node).inode (chain node)).record
  length : ∀ node, (chain node).length = geometry.blocksFor (tree node).stored.length
  stream : ∀ node, disk.stream (chain node) = (tree node).stored ++
    .zeros ((chain node).length * geometry.payloadSize - (tree node).stored.length)
  fixed : disk.rest = Disk.fixed geometry

/-- The disk is in order and stands for the tree. -/
structure Represents (geometry : Geometry) (disk : Disk) (tree : Tree) (chain : Nat → List Nat) :
    Prop where
  stored : Stored geometry disk tree chain
  wellFormed : tree.WellFormed geometry.inodeCount
  slotCursor : disk.counter .nextFreeInode = (tree.vacancy geometry.inodeCount).getD 0

variable {volume : Volume} {disk before after : Disk} {tree : Tree} {chain : Nat → List Nat}

namespace Geometry

variable (geometry : Geometry)

theorem le_blocksFor (length : Nat) : length ≤ geometry.blocksFor length * geometry.payloadSize :=
  le_ceilDiv_mul geometry.payloadSize_pos length

theorem blocks_mul_lt : geometry.blocks * geometry.payloadSize < geometry.imageLength := by
  have sum := geometry.payloadSize_add
  have positive := geometry.blocks_pos
  have block : geometry.blocks * geometry.payloadSize < geometry.blocks * geometry.blockSize :=
    Nat.mul_lt_mul_of_pos_left (by omega) positive
  exact Nat.lt_of_lt_of_le block (Nat.mul_le_mul_right _ (by rw [totalBlocks_eq]; omega))

theorem inodeCount_lt : geometry.inodeCount < Limit.word64 := by
  have addressable : geometry.imageLength < Limit.word64 := geometry.addressable
  have records := geometry.records_end
  have dataStart := geometry.data_start_le_imageLength
  omega

end Geometry

@[simp] theorem Node.isDirectory_inode (node : Node) (chain : List Nat) :
    (node.inode chain).isDirectory = decide (node.body = .directory node.children) := by
  rw [Node.inode, Inode.isDirectory, children]
  cases node.body <;> simp [Body.kind]

@[simp] theorem Node.isEmpty_inode (node : Node) (chain : List Nat) :
    (node.inode chain).isEmpty = !decide node.IsLive := by
  cases body : node.body <;> simp [Node.inode, Inode.isEmpty, Node.IsLive, body, Body.kind]

namespace Stored

theorem stored_le (stored : Stored volume.geometry disk tree chain) (node : Nat) :
    (tree node).stored.length ≤ (chain node).length * volume.geometry.payloadSize := by
  rw [stored.length]
  exact volume.geometry.le_blocksFor _

theorem stored_lt (stored : Stored volume.geometry disk tree chain) (node : Nat) :
    (tree node).stored.length < volume.geometry.imageLength := by
  refine Nat.lt_of_le_of_lt (Nat.le_trans (stored.stored_le node) ?_) volume.geometry.blocks_mul_lt
  exact Nat.mul_le_mul_right _ (volume.geometry.length_le_blocks (stored.ledger.isData node)
    (stored.ledger.nodup node))

theorem size_toNat (stored : Stored volume.geometry disk tree chain) (node : Nat) :
    ((tree node).inode (chain node)).size.toNat = (tree node).stored.length := by
  have addressable : volume.geometry.imageLength < Limit.word64 := volume.geometry.addressable
  exact UInt64.toNat_ofNat_of_lt' (Nat.lt_trans (stored.stored_lt node) addressable)

theorem firstBlock_toNat (stored : Stored volume.geometry disk tree chain) (node : Nat) :
    ((tree node).inode (chain node)).firstBlock.toNat = (chain node).headD 0 :=
  UInt64.toNat_ofNat_of_lt' (volume.geometry.headD_lt_word64 (stored.ledger.isData node))

theorem streams (stored : Stored volume.geometry disk tree chain) {node : Nat}
    (notAnchor : node ≠ InodeNumber.anchor) :
    Streams volume.geometry disk (chain node) :=
  stored.ledger.streams notAnchor

theorem chain_answers (stored : Stored volume.geometry disk tree chain) (node : Nat) :
    Answers volume (volume.chain ((tree node).inode (chain node)).firstBlock.toNat) disk
      (.ok (chain node)) := by
  rw [stored.firstBlock_toNat]
  exact stored.ledger.chain_answers node

/-- A range within the bytes of a node is read from its chain. -/
theorem readChain_answers (stored : Stored volume.geometry disk tree chain) {node : Nat}
    (notAnchor : node ≠ InodeNumber.anchor) {offset length : Nat}
    (fits : offset + length ≤ (tree node).stored.length) :
    Answers volume (volume.readChain (chain node) offset length) disk
      (.ok (((tree node).stored.drop offset).take length)) := by
  have reads := Volume.readChain_answers (stored.streams notAnchor)
    (Nat.le_trans fits (stored.stored_le node))
  rw [stored.stream, List.drop_append_of_le_length (by omega),
    List.take_append_of_le_length (by rw [List.length_drop]; omega)] at reads
  exact reads

/-! Inodes -/

theorem getInode_answers (stored : Stored volume.geometry disk tree chain) {node : Nat}
    (inside : node < volume.geometry.inodeCount) :
    Answers volume (volume.getInode node) disk (.ok ((tree node).inode (chain node))) := by
  refine (Volume.readInodeRecord_answers inside).bind ?_
  rw [stored.record node inside]
  refine Answers.except ?_
  rw [Inode.parse_record (stored.fits node)]
  rfl

theorem getInode_answers_error (inode : Nat) (outside : volume.geometry.inodeCount ≤ inode) :
    Answers volume (volume.getInode inode) disk
      (.error (.corrupt volume.geometry.firstInodeBlock
        (.outsideTable inode volume.geometry.inodeCount))) :=
  (Volume.readInodeRecord_answers_error outside).bind_error

end Stored

theorem Volume.putInode_leads {number : Nat} {inode : Inode}
    (inside : number < volume.geometry.inodeCount) (fits : NameFits inode.name) :
    Leads volume (volume.putInode number inode) before (.ok ())
      { before with record := update before.record number inode.record } := by
  have short := fits.short
  refine Leads.ite_neg (by rw [Text.length_bytesOf]; omega) ?_
  have encoded : inode.encode.mapError (RecordError.toCorrupt (volume.geometry.inodeBlock number)) =
      .ok inode.record := by
    rw [Inode.encode_of_fits fits]
    rfl
  refine (Leads.except encoded).bind ?_
  exact Volume.writeInodeRecord_leads inside (Inode.length_record fits)

/-! Changing one node -/

/-- The blocks have become the chain of an inode and hold a content; the other chains and all records
are left alone. -/
structure Refilled (geometry : Geometry) (chain : Nat → List Nat) (number : Nat) (content : Bytes)
    (before : Disk) (blocks : List Nat) (after : Disk) : Prop where
  ledger : Ledger geometry after (update chain number blocks)
  beside : Beside geometry number chain before after
  length : blocks.length = geometry.blocksFor content.length
  stream : after.stream blocks =
    content ++ .zeros (blocks.length * geometry.payloadSize - content.length)

/-- The disk after the chain of a node has been refilled and its new record has been written. -/
theorem Stored.replace (stored : Stored volume.geometry before tree chain) {number : Nat}
    {node : Node} {blocks : List Nat} (inside : number < volume.geometry.inodeCount)
    (notAnchor : number ≠ InodeNumber.anchor) (fits : NameFits node.name)
    (child : ∀ child ∈ node.children, NameFits child.name ∧
      child.inode < volume.geometry.inodeCount)
    (refilled : Refilled volume.geometry chain number node.stored before blocks after) :
    Stored volume.geometry
      { after with record := update after.record number (node.inode blocks).record }
      (update tree number node) (update chain number blocks) where
  lockable := stored.lockable
  ledger := refilled.ledger.congr rfl rfl rfl rfl rfl
  fits := (Function.forall_update_iff tree fun _ node => NameFits node.name).mpr
    ⟨fits, fun other _ => stored.fits other⟩
  child := (Function.forall_update_iff tree fun _ node => ∀ child ∈ node.children,
    NameFits child.name ∧ child.inode < volume.geometry.inodeCount).mpr
      ⟨child, fun other _ => stored.child other⟩
  anchor := by
    rw [Function.update_of_ne (Ne.symm notAnchor)]
    exact stored.anchor
  record other inside := by
    dsimp only
    by_cases same : other = number
    · subst same
      rw [Function.update_self, Function.update_self, Function.update_self]
    · rw [Function.update_of_ne same, Function.update_of_ne same, Function.update_of_ne same,
        refilled.beside.record]
      exact stored.record other inside
  length other := by
    by_cases same : other = number
    · subst same
      rw [Function.update_self, Function.update_self]
      exact refilled.length
    · rw [Function.update_of_ne same, Function.update_of_ne same]
      exact stored.length other
  stream other := by
    by_cases same : other = number
    · subst same
      rw [Function.update_self, Function.update_self]
      exact refilled.stream
    · rw [Function.update_of_ne same, Function.update_of_ne same, ← stored.stream other]
      exact Disk.stream_congr (refilled.beside.payload other same)
  fixed := refilled.beside.rest.trans stored.fixed

/-! Directories -/

theorem Listing.split_flatMap {α : Type} {record : α → Bytes} {list : List α}
    (lengths : ∀ item ∈ list, (record item).length = 256) :
    Listing.split list.length (list.flatMap record) = list.map record := by
  induction list with
  | nil => rfl
  | cons item rest induction =>
      have here := lengths item List.mem_cons_self
      have others := induction fun other member => lengths other (List.mem_cons_of_mem _ member)
      have taken : (record item ++ rest.flatMap record).take recordLength = record item :=
        List.take_left' here
      have dropped : (record item ++ rest.flatMap record).drop recordLength = rest.flatMap record :=
        List.drop_left' here
      rw [List.length_cons, List.flatMap_cons, List.map_cons, ← others, Listing.split, taken,
        dropped]

theorem length_flatMap_records {α : Type} {record : α → Bytes} {list : List α}
    (lengths : ∀ item ∈ list, (record item).length = 256) :
    (list.flatMap record).length = list.length * 256 := by
  induction list with
  | nil => simp
  | cons item rest induction =>
      have here := lengths item List.mem_cons_self
      have others := induction fun other member => lengths other (List.mem_cons_of_mem _ member)
      rw [List.flatMap_cons, List.length_append, List.length_cons, here, others]
      omega

def recordsOf (children : List Child) : List Bytes :=
  children.map (·.entry.record)

theorem findIdx?_recordsOf {children : List Child} (fits : ∀ child ∈ children, NameFits child.name)
    (name : String) :
    (recordsOf children).findIdx? (DirEntry.hasName · name) =
      children.findIdx? (·.name = name) := by
  induction children with
  | nil => rfl
  | cons child rest induction =>
      have here : DirEntry.hasName child.entry.record name = decide (child.name = name) :=
        DirEntry.hasName_record (fits child List.mem_cons_self) name
      have others := induction fun other member => fits other (List.mem_cons_of_mem _ member)
      rw [recordsOf] at others
      rw [recordsOf, List.map_cons, List.findIdx?_cons, List.findIdx?_cons, here, others]

theorem Node.stored_of_directory {node : Node} {children : List Child}
    (body : node.body = .directory children) :
    node.stored = children.flatMap (·.entry.record) := by
  rw [stored, body]
  rfl

namespace Stored

variable {node : Nat} {children : List Child}

theorem child_fits (stored : Stored volume.geometry disk tree chain)
    (body : (tree node).body = .directory children) {child : Child} (member : child ∈ children) :
    NameFits child.name ∧ child.inode < volume.geometry.inodeCount := by
  refine stored.child node child ?_
  rwa [Node.children_of_directory body]

theorem length_record (stored : Stored volume.geometry disk tree chain)
    (body : (tree node).body = .directory children) {child : Child} (member : child ∈ children) :
    child.entry.record.length = 256 :=
  DirEntry.length_record (stored.child_fits body member).1

theorem length_stored (stored : Stored volume.geometry disk tree chain)
    (body : (tree node).body = .directory children) :
    (tree node).stored.length = children.length * 256 := by
  rw [Node.stored_of_directory body]
  exact length_flatMap_records fun child member => stored.length_record body member

theorem not_anchor (stored : Stored volume.geometry disk tree chain)
    (body : (tree node).body = .directory children) : node ≠ InodeNumber.anchor := by
  rintro rfl
  rw [stored.anchor] at body
  cases body

theorem entry_inode (stored : Stored volume.geometry disk tree chain)
    (body : (tree node).body = .directory children) {child : Child} (member : child ∈ children) :
    child.entry.inode.toNat = child.inode :=
  UInt64.toNat_ofNat_of_lt' (Nat.lt_trans (stored.child_fits body member).2
    volume.geometry.inodeCount_lt)

theorem readListing_answers (stored : Stored volume.geometry disk tree chain)
    (body : (tree node).body = .directory children) :
    Answers volume (volume.readListing ((tree node).inode (chain node))) disk
      (.ok { chain := chain node, records := recordsOf children }) := by
  have size := stored.size_toNat node
  have length := stored.length_stored body
  have short := stored.stored_lt node
  have lockable := stored.lockable
  refine Answers.ite_neg ?_ ?_
  · rw [size, length, not_not, Nat.mul_mod_left]
  refine (stored.chain_answers node).bind ?_
  have buffer : Limit.buffer = Limit.hostOffset := rfl
  refine Answers.ite_neg (by rw [size]; omega) ?_
  rw [size]
  refine (stored.readChain_answers (stored.not_anchor body) (Nat.le_of_eq (Nat.zero_add _))).bind ?_
  rw [List.drop_zero, List.take_length, length, Nat.mul_div_cancel _ (by decide),
    Node.stored_of_directory body,
    Listing.split_flatMap fun child member => stored.length_record body member]
  exact .pure _

theorem find?_records (stored : Stored volume.geometry disk tree chain)
    (body : (tree node).body = .directory children) (blocks : List Nat) (name : String) :
    Listing.find? { chain := blocks, records := recordsOf children } name =
      children.findIdx? (·.name = name) := by
  exact findIdx?_recordsOf (fun child member => (stored.child_fits body member).1) name

theorem decode_records (stored : Stored volume.geometry disk tree chain)
    (body : (tree node).body = .directory children) (blocks : List Nat) {slot : Nat}
    {child : Child} (isChild : children[slot]? = some child) :
    Listing.decode { chain := blocks, records := recordsOf children } slot = .ok child.entry := by
  have member := List.mem_of_getElem? isChild
  have record : (recordsOf children)[slot]? = some child.entry.record := by
    rw [recordsOf, List.getElem?_map, isChild]
    rfl
  have parsed : DirEntry.parse child.entry.record = .ok child.entry :=
    DirEntry.parse_record (stored.child_fits body member).1
  rw [Listing.decode]
  simp only [record, parsed]
  rfl

/-- Looking a name up on the disk finds the child in the tree. -/
theorem lookup_answers (stored : Stored volume.geometry disk tree chain)
    (body : (tree node).body = .directory children) (name : String) :
    Answers volume (volume.lookup ((tree node).inode (chain node)) name) disk
      (.ok (tree.child? node name)) := by
  refine (stored.readListing_answers body).bind ?_
  rw [stored.find?_records body, Tree.child?, Node.children_of_directory body,
    List.find?_eq_bind_findIdx?_getElem?]
  cases found : children.findIdx? (·.name = name) with
  | none => exact .pure _
  | some slot =>
      obtain ⟨inside, -⟩ := List.findIdx?_eq_some_iff_getElem.mp found
      have isChild : children[slot]? = some children[slot] := List.getElem?_eq_getElem inside
      have member := List.getElem_mem inside
      rw [Option.bind_some, isChild, Option.map_some, ← stored.entry_inode body member]
      refine (Answers.except (stored.decode_records body _ isChild)).bind ?_
      exact .pure _

theorem list_answers (stored : Stored volume.geometry disk tree chain)
    (body : (tree node).body = .directory children) (inside : node < volume.geometry.inodeCount) :
    Answers volume (volume.list node) disk (.ok (children.map Child.entry)) := by
  have isDirectory : ((tree node).inode (chain node)).isDirectory = true := by
    rw [Node.isDirectory_inode, Node.children_of_directory body]
    exact decide_eq_true body
  refine (stored.getInode_answers inside).bind ?_
  refine Answers.ite_neg (by simp [isDirectory]) ?_
  refine (stored.readListing_answers body).bind ?_
  have entries : children.map Child.entry =
      (List.range children.length).map fun slot => (children[slot]?.getD ⟨"", 0⟩).entry := by
    apply List.ext_getElem?
    intro slot
    by_cases inside : slot < children.length
    · simp [inside]
    · simp [inside]
  rw [entries]
  have count : (recordsOf children).length = children.length := by simp [recordsOf]
  dsimp only
  rw [count]
  refine Answers.mapM fun slot member => ?_
  have inside : slot < children.length := List.mem_range.mp member
  have isChild : children[slot]? = some children[slot] := List.getElem?_eq_getElem inside
  refine Answers.except ?_
  rw [stored.decode_records body _ isChild, isChild]
  rfl

end Stored

/-! Following names -/

namespace Represents

/-- What following names on the disk answers. -/
def walked (tree : Tree) (chain : Nat → List Nat) (path : String) (found : Option Nat) :
    Except FsError (Inode × Nat) :=
  match found with
  | some node => .ok ((tree node).inode (chain node), node)
  | none => .error (.noSuchFile path)

theorem child_inside (represents : Represents volume.geometry disk tree chain) {node : Nat}
    {child : Child} (member : child ∈ (tree node).children) :
    child.inode < volume.geometry.inodeCount ∧ InodeNumber.firstFree ≤ child.inode ∧
      (tree child.inode).IsLive :=
  ⟨(represents.stored.child node child member).2, (represents.wellFormed.child node child member).1,
    (represents.wellFormed.child node child member).2.1⟩

theorem child_of_child? {node child : Nat} {name : String}
    (found : tree.child? node name = some child) :
    ∃ entry ∈ (tree node).children, entry.name = name ∧ entry.inode = child := by
  rw [Tree.child?, Option.map_eq_some_iff] at found
  obtain ⟨entry, found, isChild⟩ := found
  exact ⟨entry, List.mem_of_find?_eq_some found, by simpa using List.find?_some found, isChild⟩

/-- Following names on the disk follows them in the tree. -/
theorem walk_answers (represents : Represents volume.geometry disk tree chain) (path : String)
    (names : List String) (node : Nat) :
    Answers volume (volume.walk path names ((tree node).inode (chain node)) node) disk
      (walked tree chain path (tree.follow node names)) := by
  induction names generalizing node with
  | nil => exact .pure _
  | cons name rest induction =>
      rw [Tree.follow]
      cases body : (tree node).body with
      | directory children =>
          have isDirectory : ((tree node).inode (chain node)).isDirectory = true := by
            rw [Node.isDirectory_inode, Node.children_of_directory body]
            exact decide_eq_true body
          refine Answers.ite_neg (by simp [isDirectory]) ?_
          refine (represents.stored.lookup_answers body name).bind ?_
          cases found : tree.child? node name with
          | none => exact .throw _
          | some child =>
              obtain ⟨entry, member, -, rfl⟩ := child_of_child? found
              obtain ⟨inside, free, live⟩ := represents.child_inside member
              refine Answers.ite_neg ?_ ?_
              · intro same
                rw [same] at free
                exact absurd free (by decide)
              refine (represents.stored.getInode_answers inside).bind ?_
              refine Answers.ite_neg (by simp [live]) ?_
              exact induction entry.inode
      | _ =>
          have notDirectory : ((tree node).inode (chain node)).isDirectory = false := by
            simp [body]
          have missing : tree.child? node name = none := by
            rw [Tree.child?, Node.children, body]
            rfl
          rw [missing]
          refine Answers.ite_pos (by simp [notDirectory]) ?_
          exact (Answers.throw _).bind_error

theorem walkFromRoot_answers (represents : Represents volume.geometry disk tree chain)
    (path : String) (names : List String) :
    Answers volume (volume.walkFromRoot path names) disk
      (walked tree chain path (tree.resolve names)) := by
  have inside : InodeNumber.root < volume.geometry.inodeCount :=
    Nat.lt_of_lt_of_le (by decide) volume.geometry.four_le_inodeCount
  exact (represents.stored.getInode_answers inside).bind
    (represents.walk_answers path names InodeNumber.root)

/-- The node that a path names, or why it names none. -/
def resolved (tree : Tree) (path : String) : Except FsError Nat :=
  match Path.components path with
  | .error error => .error error
  | .ok names =>
      match tree.resolve names with
      | some node => .ok node
      | none => .error (.noSuchFile path)

theorem resolve_answers (represents : Represents volume.geometry disk tree chain) (path : String) :
    Answers volume (volume.resolve path) disk
      ((resolved tree path).map fun node => ((tree node).inode (chain node), node)) := by
  rw [resolved]
  cases components : Path.components path with
  | error error => exact (Answers.except components).bind_error
  | ok names =>
      have walks := represents.walkFromRoot_answers path names
      refine (Answers.except components).bind ?_
      dsimp only
      cases found : tree.resolve names with
      | some node =>
          rw [found] at walks
          exact walks
      | none =>
          rw [found] at walks
          exact walks

end Represents

end ImageFs
