import ImageFs.Proofs.Check
import ImageFs.Proofs.Entries

/-!
What the operations on an image are to answer, as functions of the tree and of the open files. Main
statement: on an image in order every operation gives this answer and leaves an image in order, and an
operation that fails leaves the disk as it was, but for the generation of a slot.
-/

namespace ImageFs

open Function (update)

/-! Questions to the tree -/

def Node.kind (node : Node) : FileKind :=
  match node.body with
  | .directory _ => .directory
  | _ => .file

namespace Tree

variable (tree : Tree)

def stat (geometry : Geometry) (path : String) : Except FsError FileStat :=
  (Represents.resolved tree path).map fun node => {
    inode := node
    name := (tree node).name
    kind := (tree node).kind
    size := (tree node).stored.length
    blocks := geometry.blocksFor (tree node).stored.length }

def listed (child : Child) : ListedEntry where
  name := child.name
  inode := child.inode
  kind := (tree child.inode).kind
  size := (tree child.inode).stored.length

def list (path : String) : Except FsError (List ListedEntry) :=
  match Represents.resolved tree path with
  | .error error => .error error
  | .ok node =>
      match (tree node).body with
      | .directory children => .ok (children.map tree.listed)
      | _ => .error .notDirectory

def opened (path : String) (mode : AccessMode) : Except FsError OpenFile :=
  match Represents.resolved tree path with
  | .error error => .error error
  | .ok node =>
      match (tree node).body with
      | .directory _ => .error .isDirectory
      | _ => .ok {
          inode := node
          generation := (tree node).generation
          name := (tree node).name
          offset := 0
          mode }

def usage (geometry : Geometry) (disk : Disk) : Usage where
  blockSize := geometry.blockSize
  totalBlocks := geometry.blocks
  freeBlocks := disk.counter .freeBlocks
  dataStart := geometry.dataStart
  inodeCount := geometry.inodeCount
  freeInodes := geometry.inodeCount - (tree.liveNodes 0 geometry.inodeCount).length
  nextFreeBlock := disk.counter .nextFreeBlock
  nextFreeInode := disk.counter .nextFreeInode
  holders := 0

variable {tree}

theorem WellFormed.follow_live {slots : Nat} (wellFormed : tree.WellFormed slots)
    {names : List String} {node found : Nat} (live : (tree node).IsLive)
    (notAnchor : node ≠ InodeNumber.anchor) (follows : tree.follow node names = some found) :
    (tree found).IsLive ∧ found ≠ InodeNumber.anchor := by
  induction names generalizing node with
  | nil =>
      cases follows
      exact ⟨live, notAnchor⟩
  | cons name rest induction =>
      rw [follow] at follows
      cases isChild : tree.child? node name with
      | none =>
          rw [isChild] at follows
          cases follows
      | some child =>
          rw [isChild] at follows
          obtain ⟨entry, member, -, rfl⟩ := Represents.child_of_child? isChild
          obtain ⟨free, live', -⟩ := wellFormed.child node entry member
          exact induction live' (Nat.ne_of_gt free) follows

theorem WellFormed.resolved_live {slots : Nat} (wellFormed : tree.WellFormed slots) {path : String}
    {node : Nat} (resolved : Represents.resolved tree path = .ok node) :
    (tree node).IsLive ∧ node ≠ InodeNumber.anchor := by
  rw [Represents.resolved] at resolved
  split at resolved
  · cases resolved
  · split at resolved
    · next names _ found follows =>
      cases resolved
      obtain ⟨children, body⟩ := wellFormed.rootBody
      exact wellFormed.follow_live (Node.isLive_of_directory body) (by decide) follows
    · cases resolved

end Tree

variable {volume : Volume} {disk before after : Disk} {tree : Tree} {chain : Nat → List Nat}

namespace Represents

theorem ofInodeKind?_inode {node : Node} (live : node.IsLive) (blocks : List Nat) :
    FileKind.ofInodeKind? (node.inode blocks).kind = some node.kind := by
  rw [Node.inode, Node.kind]
  cases body : node.body with
  | vacant => exact absurd body live
  | file content => rfl
  | directory children => rfl

theorem statPath_answers (represents : Represents volume.geometry disk tree chain) (path : String) :
    Answers volume (volume.statPath path) disk (tree.stat volume.geometry path) := by
  have resolves := represents.resolve_answers path
  rw [Tree.stat]
  cases resolved : resolved tree path with
  | error error =>
      rw [resolved] at resolves
      exact resolves.bind_error
  | ok node =>
      rw [resolved] at resolves
      obtain ⟨live, -⟩ := represents.wellFormed.resolved_live resolved
      refine resolves.bind ?_
      dsimp only
      rw [Volume.statInode, ofInodeKind?_inode live]
      refine (represents.stored.chain_answers node).bind ?_
      rw [represents.stored.size_toNat, represents.stored.length]
      exact .pure _

theorem listedEntry_answers (represents : Represents volume.geometry disk tree chain)
    {directory : Nat} {children : List Child} (body : (tree directory).body = .directory children)
    {child : Child} (member : child ∈ children) :
    Answers volume (volume.listedEntry child.entry) disk (.ok (tree.listed child)) := by
  have isChild : child ∈ (tree directory).children := by
    rwa [Node.children_of_directory body]
  obtain ⟨inside, -, live⟩ := represents.child_inside isChild
  have number := represents.stored.entry_inode body member
  rw [Volume.listedEntry, number]
  refine (represents.stored.getInode_answers inside).bind ?_
  rw [ofInodeKind?_inode live, represents.stored.size_toNat]
  exact .pure _

theorem listPath_answers (represents : Represents volume.geometry disk tree chain) (path : String) :
    Answers volume (volume.listPath path) disk (tree.list path) := by
  have resolves := represents.resolve_answers path
  rw [Tree.list]
  cases resolved : resolved tree path with
  | error error =>
      rw [resolved] at resolves
      exact resolves.bind_error
  | ok node =>
      rw [resolved] at resolves
      obtain ⟨live, -⟩ := represents.wellFormed.resolved_live resolved
      refine resolves.bind ?_
      dsimp only
      cases body : (tree node).body with
      | directory children =>
          refine Answers.ite_neg (by simp [isDirectory_inode body]) ?_
          refine (represents.stored.list_answers body (represents.inside_of_directory body)).bind ?_
          have each := @Answers.mapM Child ListedEntry volume disk
            (fun child => volume.listedEntry child.entry) tree.listed children
            fun child member => represents.listedEntry_answers body member
          rwa [List.mapM_map]
      | _ => exact Answers.ite_pos (by simp [body]) (Answers.throw _).bind_error

end Represents

/-! Actions -/

variable {α β : Type}

/-- From a file at rest that shows the disk `before`, and from the open files `files`, the action ends
with the answer and the open files `files'`, and leaves the file at rest and with the disk `after`. -/
def Acts (volume : Volume) (action : FileAction α) (files : OpenFiles) (before : Disk)
    (answer : Except FsError α) (files' : OpenFiles) (after : Disk) : Prop :=
  ∀ backing, volume.AtRest backing → Disk.of volume.geometry backing.content = before →
    ∃ final, action files backing = (answer.mapError .failed, files', final) ∧
      volume.AtRest final ∧ final.content.size = backing.content.size ∧
      Disk.of volume.geometry final.content = after

namespace Acts

variable {files files' files'' : OpenFiles} {middle : Disk}

theorem pure (value : α) : Acts volume (Pure.pure value) files before (.ok value) files before :=
  fun backing rest shows => ⟨backing, rfl, rest, rfl, shows⟩

theorem throw (error : FsError) :
    Acts volume (MonadExcept.throw error : FileAction α) files before (.error error) files before :=
  fun backing rest shows => ⟨backing, rfl, rest, rfl, shows⟩

theorem bind {action : FileAction α} {next : α → FileAction β} {value : α} {answer : Except FsError β}
    (first : Acts volume action files before (.ok value) files' middle)
    (second : Acts volume (next value) files' middle answer files'' after) :
    Acts volume (action >>= next) files before answer files'' after := by
  intro backing rest shows
  obtain ⟨between, ends, rest', size, shows'⟩ := first backing rest shows
  obtain ⟨final, ends', rest'', size', shows''⟩ := second between rest' shows'
  refine ⟨final, ?_, rest'', size'.trans size, shows''⟩
  rw [FileAction.bind_apply, ends]
  exact ends'

theorem bind_error {action : FileAction α} {next : α → FileAction β} {error : FsError}
    (first : Acts volume action files before (.error error) files' after) :
    Acts volume (action >>= next) files before (.error error) files' after := by
  intro backing rest shows
  obtain ⟨final, ends, facts⟩ := first backing rest shows
  refine ⟨final, ?_, facts⟩
  rw [FileAction.bind_apply, ends]
  rfl

theorem ite_pos {condition : Prop} [Decidable condition] {yes no : FileAction α}
    {answer : Except FsError α} (holds : condition)
    (branch : Acts volume yes files before answer files' after) :
    Acts volume (if condition then yes else no) files before answer files' after := by
  rwa [if_pos holds]

theorem ite_neg {condition : Prop} [Decidable condition] {yes no : FileAction α}
    {answer : Except FsError α} (fails : ¬ condition)
    (branch : Acts volume no files before answer files' after) :
    Acts volume (if condition then yes else no) files before answer files' after := by
  rwa [if_neg fails]

theorem map {action : FileAction α} {answer : Except FsError α} (function : α → β)
    (first : Acts volume action files before answer files' after) :
    Acts volume (function <$> action) files before (answer.map function) files' after := by
  rw [← bind_pure_comp]
  cases answer with
  | error error => exact first.bind_error
  | ok value => exact first.bind (pure _)

/-- An update of the disk leaves the open files alone. -/
theorem lift {update : Update α} {answer : Except FsError α}
    (performs : Performs volume update before answer after) :
    Acts volume (liftM update : FileAction α) files before answer files after := by
  intro backing rest shows
  obtain ⟨final, ends, facts⟩ := performs backing rest shows
  refine ⟨final, ?_, facts⟩
  rw [FileAction.lift_apply, ends]

theorem file {handle : Nat} :
    Acts volume (FileAction.file handle) files before (files.get handle) files before :=
  fun backing rest shows => ⟨backing, rfl, rest, rfl, shows⟩

theorem insert (file : OpenFile) :
    Acts volume (FileAction.insert file) files before (files.insert file).1 (files.insert file).2
      before :=
  fun backing rest shows => ⟨backing, rfl, rest, rfl, shows⟩

end Acts

namespace OpenFiles

def moved (files : OpenFiles) (handle : Nat) (file : OpenFile) (offset : Nat) : OpenFiles :=
  ⟨files.slots.set handle (some { file with offset })⟩

theorem get_eq_ok {files : OpenFiles} {handle : Nat} {file : OpenFile} :
    files.get handle = .ok file ↔ files.get? handle = some file := by
  rw [get]
  cases files.get? handle <;> simp

theorem get?_eq_some {files : OpenFiles} {handle : Nat} {file : OpenFile} :
    files.get? handle = some file ↔ files.slots[handle]? = some (some file) := by
  rw [get?, Option.join_eq_some_iff]

end OpenFiles

namespace Acts

variable {files : OpenFiles}

theorem setOffset {handle : Nat} {file : OpenFile} (isOpen : files.get handle = .ok file)
    (offset : Nat) :
    Acts volume (FileAction.setOffset handle offset) files before (.ok ())
      (files.moved handle file offset) before := by
  intro backing rest shows
  refine ⟨backing, ?_, rest, rfl, shows⟩
  have moves : files.setOffset handle offset = .ok (files.moved handle file offset) := by
    rw [OpenFiles.setOffset, OpenFiles.get_eq_ok.mp isOpen]
    rfl
  rw [FileAction.setOffset, moves]
  rfl

end Acts

/-! Outcomes -/

namespace Image.Operation

/-- What an operation is to answer, with the open files and the tree that it is to leave. -/
def outcome (geometry : Geometry) (disk : Disk) (tree : Tree) (files : OpenFiles) :
    Operation → Except FsError Answer × OpenFiles × Tree
  | create path kind =>
      match tree.create geometry (disk.counter .freeBlocks) path kind with
      | (answer, tree') => (answer.map fun _ => .done, files, tree')
  | remove path =>
      match tree.remove path with
      | (answer, tree') => (answer.map fun _ => .done, files, tree')
  | openFile path mode =>
      match tree.opened path mode with
      | .error error => (.error error, files, tree)
      | .ok file => ((files.insert file).1.map .handle, (files.insert file).2, tree)
  | closeFile handle =>
      match files.remove handle with
      | .error error => (.error error, files, tree)
      | .ok (_, files') => (.ok .done, files', tree)
  | read handle count =>
      match files.get handle with
      | .error error => (.error error, files, tree)
      | .ok file =>
          match tree.contentOf file with
          | none => (.error (.noSuchFile file.name), files, tree)
          | some content =>
              let bytes := (content.drop file.offset).take count
              (.ok (.bytes bytes), files.moved handle file (file.offset + bytes.length), tree)
  | write handle bytes =>
      match files.get handle with
      | .error error => (.error error, files, tree)
      | .ok file =>
          if !file.mode.canWrite then (.error .wrongMode, files, tree)
          else
            match tree.write geometry (disk.counter .freeBlocks) file bytes with
            | (.error error, tree') => (.error error, files, tree')
            | (.ok stop, tree') => (.ok .done, files.moved handle file stop, tree')
  | seek handle origin delta =>
      match files.get handle with
      | .error error => (.error error, files, tree)
      | .ok file =>
          match tree.contentOf file with
          | none => (.error (.noSuchFile file.name), files, tree)
          | some content =>
              let position := Represents.seekTarget file content origin delta
              (.ok (.position position), files.moved handle file position, tree)
  | truncate handle length =>
      match files.get handle with
      | .error error => (.error error, files, tree)
      | .ok file =>
          if !file.mode.canWrite then (.error .wrongMode, files, tree)
          else
            match tree.truncate geometry (disk.counter .freeBlocks) file length with
            | (answer, tree') => (answer.map fun _ => .done, files, tree')
  | stat path => ((tree.stat geometry path).map .stat, files, tree)
  | readDirectory path => ((tree.list path).map .entries, files, tree)
  | usage => (.ok (.usage (tree.usage geometry disk)), files, tree)
  | check => (.ok (.report (Represents.cleanReport geometry disk tree)), files, tree)

end Image.Operation

/-- Every open file was opened as a file of the table, and no offset lies behind the image. -/
def OpenFiles.Fit (geometry : Geometry) (files : OpenFiles) : Prop :=
  ∀ file, some file ∈ files.slots → InodeNumber.firstFree ≤ file.inode ∧
    file.inode < geometry.inodeCount ∧ file.offset ≤ geometry.imageLength

theorem OpenFiles.Fit.of_get {geometry : Geometry} {files : OpenFiles} (fit : files.Fit geometry)
    {handle : Nat} {file : OpenFile} (isOpen : files.get handle = .ok file) :
    InodeNumber.firstFree ≤ file.inode ∧ file.inode < geometry.inodeCount ∧
      file.offset ≤ geometry.imageLength :=
  fit file (List.mem_of_getElem? (get?_eq_some.mp (get_eq_ok.mp isOpen)))

/-- What an operation leaves on the disk when it fails: all as it was, but a slot whose new node could
not be entered has become older. -/
def Leaves (volume : Volume) (tree : Tree) (before after : Disk) (operation : Image.Operation)
    (error : FsError) : Prop :=
  after = before ∨ error = .noFreeBlocks ∧ ∃ path kind slot, operation = .create path kind ∧
    tree.vacancy volume.geometry.inodeCount = some slot ∧ after = before.retired tree slot

/-- The operation does on the disk `before` what is to be done. -/
def Meets (volume : Volume) (operation : Image.Operation) (before : Disk) (tree : Tree)
    (files : OpenFiles) : Prop :=
  let outcome := operation.outcome volume.geometry before tree files
  ∃ after chain, Acts volume (operation.action volume) files before outcome.1 outcome.2.1 after ∧
    Represents volume.geometry after outcome.2.2 chain ∧
    ∀ error, outcome.1 = .error error → Leaves volume tree before after operation error

theorem error_of_map {answer : Except FsError α} {function : α → β} {error : FsError}
    (isError : answer.map function = .error error) : answer = .error error := by
  cases answer with
  | error other =>
      cases isError
      rfl
  | ok value => cases isError

theorem error_of_mapError {answer : Except FsError α} {error : FsError}
    (isError : answer.mapError Halt.failed = .error (.failed error)) : answer = .error error := by
  cases answer with
  | error other =>
      cases isError
      rfl
  | ok value => cases isError

namespace Represents

variable {files : OpenFiles}

/-! Operations by path -/

theorem create_performs {path name : String} {parents : List String}
    (split : Path.splitLast path = .ok (parents, name)) {kind : FileKind} {answer : Except FsError Nat}
    (leads : Leads volume (volume.createLocked path kind.toInodeKind parents name) before answer
      after) : Performs volume (volume.create path kind.toInodeKind) before answer after := by
  rw [volume.create_eq]
  exact Performs.bind (.of_moves (Leads.except split 0)) (.withDirectoryLock .exclusive leads)

theorem remove_performs {path name : String} {parents : List String}
    (split : Path.splitLast path = .ok (parents, name)) {answer : Except FsError Unit}
    (leads : Leads volume (volume.removeLocked path parents name) before answer after) :
    Performs volume (volume.remove path) before answer after := by
  rw [volume.remove_eq]
  exact Performs.bind (.of_moves (Leads.except split 0)) (.withDirectoryLock .exclusive leads)

theorem create_meets (represents : Represents volume.geometry before tree chain) (path : String)
    (kind : FileKind) : Meets volume (.create path kind) before tree files := by
  obtain ⟨after, chain', performs, represents', leaves⟩ : ∃ after chain',
      Performs volume (volume.create path kind.toInodeKind) before
        (tree.create volume.geometry (before.counter .freeBlocks) path kind).1 after ∧
      Represents volume.geometry after
        (tree.create volume.geometry (before.counter .freeBlocks) path kind).2 chain' ∧
      ∀ error, (tree.create volume.geometry (before.counter .freeBlocks) path kind).1 =
          .error error →
        after = before ∨ error = .noFreeBlocks ∧ ∃ slot,
          tree.vacancy volume.geometry.inodeCount = some slot ∧
          after = before.retired tree slot := by
    cases split : Path.splitLast path with
    | error error =>
        refine ⟨before, chain, ?_, ?_, fun _ _ => .inl rfl⟩
        · rw [Tree.create, volume.create_eq, split]
          exact Performs.bind_error (.of_moves (Leads.except rfl 0))
        · rw [Tree.create, split]
          exact represents
    | ok found =>
        obtain ⟨parents, name⟩ := found
        obtain ⟨after, chain', leads, facts⟩ := represents.createLocked_leads path kind split
        exact ⟨after, chain', create_performs split leads, facts⟩
  refine ⟨after, chain', ?_, represents', fun error isError => ?_⟩
  · exact (Acts.lift performs).map _
  · rcases leaves error (error_of_map isError) with same | ⟨isFull, slot, vacancy, retired⟩
    · exact .inl same
    · exact .inr ⟨isFull, path, kind, slot, rfl, vacancy, retired⟩

theorem remove_meets (represents : Represents volume.geometry before tree chain) (path : String) :
    Meets volume (.remove path) before tree files := by
  obtain ⟨after, chain', performs, represents', leaves⟩ : ∃ after chain',
      Performs volume (volume.remove path) before (tree.remove path).1 after ∧
      Represents volume.geometry after (tree.remove path).2 chain' ∧
      ∀ error, (tree.remove path).1 = .error error → after = before := by
    cases split : Path.splitLast path with
    | error error =>
        refine ⟨before, chain, ?_, ?_, fun _ _ => rfl⟩
        · rw [Tree.remove, volume.remove_eq, split]
          exact Performs.bind_error (.of_moves (Leads.except rfl 0))
        · rw [Tree.remove, split]
          exact represents
    | ok found =>
        obtain ⟨parents, name⟩ := found
        obtain ⟨after, chain', leads, facts⟩ := represents.removeLocked_does path split
        exact ⟨after, chain', remove_performs split leads, facts⟩
  exact ⟨after, chain', (Acts.lift performs).map _, represents',
    fun error isError => .inl (leaves error (error_of_map isError))⟩

/-- An operation that only asks leaves everything as it was. -/
theorem meets_of_answers (represents : Represents volume.geometry before tree chain)
    {operation : Image.Operation} {answer : Except FsError Image.Answer}
    (isOutcome : operation.outcome volume.geometry before tree files = (answer, files, tree))
    (acts : Acts volume (operation.action volume) files before answer files before) :
    Meets volume operation before tree files := by
  rw [Meets, isOutcome]
  exact ⟨before, chain, acts, represents, fun _ _ => .inl rfl⟩

theorem stat_meets (represents : Represents volume.geometry before tree chain) (path : String) :
    Meets volume (.stat path) before tree files := by
  refine represents.meets_of_answers rfl ((Acts.lift ?_).map _)
  exact .withDirectoryLock .shared (.query (represents.statPath_answers path))

theorem readDirectory_meets (represents : Represents volume.geometry before tree chain)
    (path : String) : Meets volume (.readDirectory path) before tree files := by
  refine represents.meets_of_answers rfl ((Acts.lift ?_).map _)
  exact .withDirectoryLock .shared (.query (represents.listPath_answers path))

theorem check_meets (represents : Represents volume.geometry before tree chain) :
    Meets volume .check before tree files := by
  have performs : Performs volume (volume.check .breaks) before
      (.ok (cleanReport volume.geometry before tree)) before :=
    .withDirectoryLock .exclusive (.query represents.check_answers)
  exact represents.meets_of_answers rfl ((Acts.lift performs).map Image.Answer.report)

theorem usageGiven_answers (represents : Represents volume.geometry before tree chain)
    (holders : Nat) : Answers volume (volume.usageGiven holders) before
      (.ok { tree.usage volume.geometry before with holders }) := by
  refine (represents.liveFrom_answers (Nat.le_of_eq (Nat.zero_add _))).bind ?_
  refine (Volume.readCounter_answers .freeBlocks).bind ?_
  refine (Volume.readCounter_answers .nextFreeBlock).bind ?_
  refine (Volume.readCounter_answers .nextFreeInode).bind ?_
  rw [Tree.inodesOf, List.length_map]
  exact .pure _

theorem usage_meets (represents : Represents volume.geometry before tree chain) :
    Meets volume .usage before tree files := by
  have performs : Performs volume volume.usage before
      (.ok (tree.usage volume.geometry before)) before := by
    refine Performs.bind (.of_moves (Leads.except volume.directoryLock_of_volume 0)) ?_
    refine Performs.bind (.of_moves DirectoryLock.holders_moves) ?_
    exact .withDirectoryLock .shared (.query (represents.usageGiven_answers 0))
  exact represents.meets_of_answers rfl ((Acts.lift performs).map Image.Answer.usage)

theorem openFile_meets (represents : Represents volume.geometry before tree chain) (path : String)
    (mode : AccessMode) : Meets volume (.openFile path mode) before tree files := by
  have resolves := represents.resolve_answers path
  rw [Meets, Image.Operation.outcome, Tree.opened]
  cases resolved : resolved tree path with
  | error error =>
      rw [resolved] at resolves
      refine ⟨before, chain, ?_, represents, fun _ _ => .inl rfl⟩
      have performs := Performs.withDirectoryLock .shared (Leads.query resolves)
      exact (Acts.lift performs).bind_error.map _
  | ok node =>
      rw [resolved] at resolves
      have performs := Performs.withDirectoryLock .shared (Leads.query resolves)
      obtain ⟨live, -⟩ := represents.wellFormed.resolved_live resolved
      dsimp only
      cases body : (tree node).body with
      | directory children =>
          refine ⟨before, chain, ?_, represents, fun _ _ => .inl rfl⟩
          have acts : Acts volume (volume.openFile path mode) files before
              (.error .isDirectory) files before :=
            Acts.bind (Acts.lift performs)
              (Acts.ite_pos (isDirectory_inode body) (Acts.throw _).bind_error)
          exact acts.map Image.Answer.handle
      | vacant => exact absurd body live
      | file content =>
          refine ⟨before, chain, ?_, represents, fun _ _ => .inl rfl⟩
          refine Acts.map _ (Acts.bind (Acts.lift performs) ?_)
          exact Acts.ite_neg (by simp [body]) (Acts.insert _)

/-! Operations by handle -/

theorem withOpenFile_performs {file : OpenFile} {kind : LockKind} {body : Update α}
    {answer : Except FsError α} (inside : file.inode < volume.geometry.inodeCount)
    (leads : Leads volume body before answer after) :
    Performs volume (volume.withOpenFile file kind body) before answer after :=
  .withDirectoryLock .shared (Volume.withInode_leads inside leads)

theorem closeFile_meets (represents : Represents volume.geometry before tree chain) (handle : Nat) :
    Meets volume (.closeFile handle) before tree files := by
  have acts : Acts volume (FileAction.remove handle) files before
      ((files.remove handle).map fun _ => ())
      (match files.remove handle with
        | .error _ => files
        | .ok (_, files') => files') before := by
    intro backing rest shows
    refine ⟨backing, ?_, rest, rfl, shows⟩
    rw [FileAction.remove]
    cases files.remove handle <;> rfl
  rw [Meets, Image.Operation.outcome]
  cases removed : files.remove handle with
  | error error =>
      rw [removed] at acts
      exact ⟨before, chain, acts.bind_error, represents, fun _ _ => .inl rfl⟩
  | ok found =>
      rw [removed] at acts
      exact ⟨before, chain, acts.bind (.pure _), represents, fun _ _ => .inl rfl⟩

/-- Questions through a handle, which move its offset. -/
theorem ask_meets (represents : Represents volume.geometry before tree chain)
    (fit : files.Fit volume.geometry) {handle : Nat} {operation : Image.Operation}
    (body : OpenFile → Update α) (value : OpenFile → Bytes → α) (position : OpenFile → α → Nat)
    (wrap : α → Image.Answer)
    (isAction : operation.action volume = wrap <$> (do
      let file ← FileAction.file handle
      let found ← volume.withOpenFile file .shared (body file)
      FileAction.setOffset handle (position file found)
      return found))
    (isOutcome : operation.outcome volume.geometry before tree files =
      match files.get handle with
      | .error error => (.error error, files, tree)
      | .ok file =>
          match tree.contentOf file with
          | none => (.error (.noSuchFile file.name), files, tree)
          | some content =>
              (.ok (wrap (value file content)),
                files.moved handle file (position file (value file content)), tree))
    (removed : ∀ file, file.inode < volume.geometry.inodeCount → tree.contentOf file = none →
      Leads volume (body file) before (.error (.noSuchFile file.name)) before)
    (asked : ∀ file content, InodeNumber.firstFree ≤ file.inode →
      tree.contentOf file = some content →
        Leads volume (body file) before (.ok (value file content)) before) :
    Meets volume operation before tree files := by
  have opens := @Acts.file volume before files handle
  rw [Meets, isOutcome, isAction]
  cases isOpen : files.get handle with
  | error error =>
      rw [isOpen] at opens
      exact ⟨before, chain, opens.bind_error.map _, represents, fun _ _ => .inl rfl⟩
  | ok file =>
      rw [isOpen] at opens
      obtain ⟨taken, inside, -⟩ := fit.of_get isOpen
      dsimp only
      cases live : tree.contentOf file with
      | none =>
          refine ⟨before, chain, ?_, represents, fun _ _ => .inl rfl⟩
          have fails : Performs volume (volume.withOpenFile file .shared (body file)) before
              (.error (.noSuchFile file.name)) before :=
            withOpenFile_performs inside (removed file inside live)
          change Acts volume _ files before (.map wrap (.error (.noSuchFile file.name))) files before
          refine Acts.map wrap ?_
          refine opens.bind ?_
          exact (Acts.lift fails).bind_error
      | some content =>
          refine ⟨before, chain, ?_, represents, fun _ _ => .inl rfl⟩
          have finds : Performs volume (volume.withOpenFile file .shared (body file)) before
              (.ok (value file content)) before :=
            withOpenFile_performs inside (asked file content taken live)
          have moves := @Acts.setOffset volume before files _ _ isOpen
            (position file (value file content))
          change Acts volume _ files before (.map wrap (.ok (value file content))) _ before
          refine Acts.map wrap ?_
          refine opens.bind ?_
          refine (Acts.lift finds).bind ?_
          exact moves.bind (.pure _)

theorem readFile_meets (represents : Represents volume.geometry before tree chain)
    (fit : files.Fit volume.geometry) (handle count : Nat) :
    Meets volume (.read handle count) before tree files := by
  refine represents.ask_meets fit (volume.readLocked · count)
    (fun file content => (content.drop file.offset).take count)
    (fun file bytes => file.offset + bytes.length) .bytes
    (congrArg (Image.Answer.bytes <$> ·) (volume.readFile_eq handle count)) rfl ?_ ?_
  · intro file inside removed
    exact (Leads.query (represents.liveInode_answers_error inside removed)).bind_error
  · intro file content taken live
    exact represents.readLocked_leads taken live count

theorem seekFile_meets (represents : Represents volume.geometry before tree chain)
    (fit : files.Fit volume.geometry) (handle : Nat) (origin : Origin) (delta : Int) :
    Meets volume (.seek handle origin delta) before tree files := by
  refine represents.ask_meets fit (volume.seekLocked · origin delta)
    (fun file content => seekTarget file content origin delta) (fun _ position => position) .position
    (congrArg (Image.Answer.position <$> ·) (volume.seekFile_eq handle origin delta)) rfl ?_ ?_
  · intro file inside removed
    exact (Leads.query (represents.liveInode_answers_error inside removed)).bind_error
  · intro file content taken live
    exact represents.seekLocked_leads live origin delta

theorem writeFile_acts {handle : Nat} {file : OpenFile} (isOpen : files.get handle = .ok file)
    (inside : file.inode < volume.geometry.inodeCount) (writable : file.mode.canWrite = true)
    {bytes : Bytes} {stop : Nat}
    (leads : Leads volume (volume.writeLocked file bytes) before (.ok stop) after) :
    Acts volume ((Image.Operation.write handle bytes).action volume) files before (.ok .done)
      (files.moved handle file stop) after := by
  have opens := @Acts.file volume before files handle
  rw [isOpen] at opens
  have writes : Acts volume (liftM (volume.withOpenFile file .exclusive
      (volume.writeLocked file bytes)) : FileAction Nat) files before (.ok stop) files after :=
    .lift (withOpenFile_performs inside leads)
  have acts : Acts volume (volume.writeFile handle bytes) files before (.ok ())
      (files.moved handle file stop) after := by
    rw [volume.writeFile_eq]
    exact opens.bind (Acts.ite_neg (by simp [writable]) (writes.bind (.setOffset isOpen stop)))
  exact acts.bind (.pure _)

theorem writeFile_meets (represents : Represents volume.geometry before tree chain)
    (fit : files.Fit volume.geometry) (handle : Nat) (bytes : Bytes) :
    Meets volume (.write handle bytes) before tree files := by
  have opens := @Acts.file volume before files handle
  rw [Meets, Image.Operation.outcome]
  cases isOpen : files.get handle with
  | error error =>
      rw [isOpen] at opens
      exact ⟨before, chain, opens.bind_error.bind_error, represents, fun _ _ => .inl rfl⟩
  | ok file =>
      rw [isOpen] at opens
      obtain ⟨taken, inside, -⟩ := fit.of_get isOpen
      dsimp only
      split
      · next denied =>
        refine ⟨before, chain, ?_, represents, fun _ _ => .inl rfl⟩
        exact Acts.bind_error (opens.bind (Acts.ite_pos denied (Acts.throw _).bind_error))
      · next allowed =>
        obtain ⟨after, chain', leads, represents', unchanged⟩ :=
          represents.writeLocked_does taken inside bytes
        cases result : tree.write volume.geometry (before.counter .freeBlocks) file bytes with
        | mk answer tree' =>
            rw [result] at leads represents' unchanged
            cases answer with
            | error error =>
                have writes : Acts volume (liftM (volume.withOpenFile file .exclusive
                    (volume.writeLocked file bytes)) : FileAction Nat) files before (.error error)
                      files after :=
                  .lift (withOpenFile_performs inside leads)
                have acts : Acts volume (volume.writeFile handle bytes) files before (.error error)
                    files after := by
                  rw [volume.writeFile_eq]
                  exact opens.bind (Acts.ite_neg allowed writes.bind_error)
                exact ⟨after, chain', acts.bind_error, represents',
                  fun _ _ => .inl (unchanged error rfl)⟩
            | ok stop =>
                exact ⟨after, chain', writeFile_acts isOpen inside (by simpa using allowed) leads,
                  represents', fun _ impossible => by cases impossible⟩

theorem truncateFile_meets (represents : Represents volume.geometry before tree chain)
    (fit : files.Fit volume.geometry) (handle length : Nat) :
    Meets volume (.truncate handle length) before tree files := by
  have opens := @Acts.file volume before files handle
  rw [Meets, Image.Operation.outcome]
  cases isOpen : files.get handle with
  | error error =>
      rw [isOpen] at opens
      exact ⟨before, chain, opens.bind_error.bind_error, represents, fun _ _ => .inl rfl⟩
  | ok file =>
      rw [isOpen] at opens
      obtain ⟨taken, inside, -⟩ := fit.of_get isOpen
      dsimp only
      split
      · next denied =>
        refine ⟨before, chain, ?_, represents, fun _ _ => .inl rfl⟩
        exact Acts.bind_error (opens.bind (Acts.ite_pos denied (Acts.throw _).bind_error))
      · next allowed =>
        obtain ⟨after, chain', leads, represents', unchanged⟩ :=
          represents.truncateLocked_does taken inside length
        have truncates : Acts volume (liftM (volume.withOpenFile file .exclusive
            (volume.truncateLocked file length)) : FileAction Unit) files before
              (tree.truncate volume.geometry (before.counter .freeBlocks) file length).1 files
              after :=
          .lift (withOpenFile_performs inside leads)
        have acts : Acts volume (volume.truncateFile handle length) files before
            (tree.truncate volume.geometry (before.counter .freeBlocks) file length).1 files
              after := by
          rw [volume.truncateFile_eq]
          exact opens.bind (Acts.ite_neg allowed truncates)
        exact ⟨after, chain', acts.map _, represents',
          fun error isError => .inl (unchanged error (error_of_map isError))⟩

/-! All operations -/

theorem meets (represents : Represents volume.geometry before tree chain)
    (fit : files.Fit volume.geometry) (operation : Image.Operation) :
    Meets volume operation before tree files := by
  cases operation with
  | create path kind => exact represents.create_meets path kind
  | remove path => exact represents.remove_meets path
  | openFile path mode => exact represents.openFile_meets path mode
  | closeFile handle => exact represents.closeFile_meets handle
  | read handle count => exact represents.readFile_meets fit handle count
  | write handle bytes => exact represents.writeFile_meets fit handle bytes
  | seek handle origin delta => exact represents.seekFile_meets fit handle origin delta
  | truncate handle length => exact represents.truncateFile_meets fit handle length
  | stat path => exact represents.stat_meets path
  | readDirectory path => exact represents.readDirectory_meets path
  | usage => exact represents.usage_meets
  | check => exact represents.check_meets

end Represents

end ImageFs
