import ImageFs.Proofs.Rows

/-!
The contents of files. Main statement: in every reachable state the operations through a handle act on
the byte string that the file holds, as far as there are blocks for it, and on no other file.
-/

namespace ImageFs

def Image.Operation.handle? : Image.Operation → Option Nat
  | closeFile handle => some handle
  | read handle _ => some handle
  | write handle _ => some handle
  | seek handle _ _ => some handle
  | truncate handle _ => some handle
  | _ => none

namespace Tree

variable {tree : Tree} {file : OpenFile} {other : Nat}

theorem setContent_elsewhere (elsewhere : other ≠ file.inode) (content : Bytes) :
    tree.setContent file.inode content other = tree other :=
  Function.update_of_ne elsewhere ..

theorem write_elsewhere (elsewhere : other ≠ file.inode) (geometry : Geometry) (free : Nat)
    (bytes : Bytes) : (tree.write geometry free file bytes).2 other = tree other := by
  rw [write]
  split
  · rfl
  · dsimp only
    split
    · rfl
    · split
      · rfl
      · exact setContent_elsewhere elsewhere _

theorem truncate_elsewhere (elsewhere : other ≠ file.inode) (geometry : Geometry)
    (free length : Nat) : (tree.truncate geometry free file length).2 other = tree other := by
  rw [truncate]
  split
  · rfl
  · split
    · rfl
    · exact setContent_elsewhere elsewhere _

end Tree

namespace Session

variable {geometry : Geometry} {session : Session} {index : Nat} {mounted : Host.Mounted}

variable {handle : Nat} {file : OpenFile} {content : Bytes}

/-! The operations through a handle -/

theorem outcome_read (isFile : mounted.image.files.get handle = .ok file)
    (live : (session.tree geometry).contentOf file = some content) (count : Nat) :
    session.outcome geometry mounted (.read handle count) =
      (.ok (.bytes ((content.drop file.offset).take count)),
        mounted.image.files.moved handle file
          (file.offset + ((content.drop file.offset).take count).length),
        session.tree geometry) := by
  rw [outcome, Image.Operation.outcome, isFile]
  dsimp only
  rw [live]

theorem outcome_seek (isFile : mounted.image.files.get handle = .ok file)
    (live : (session.tree geometry).contentOf file = some content) (origin : Origin) (delta : Int) :
    session.outcome geometry mounted (.seek handle origin delta) =
      (.ok (.position (Represents.seekTarget file content origin delta)),
        mounted.image.files.moved handle file (Represents.seekTarget file content origin delta),
        session.tree geometry) := by
  rw [outcome, Image.Operation.outcome, isFile]
  dsimp only
  rw [live]

theorem outcome_write (isFile : mounted.image.files.get handle = .ok file)
    (writable : file.mode.canWrite = true) (bytes : Bytes) {result : Except FsError Nat × Tree}
    (writes : (session.tree geometry).write geometry (session.word Superblock.freeBlocksOffset) file
      bytes = result) :
    session.outcome geometry mounted (.write handle bytes) =
      (result.1.map fun _ => .done,
        match result.1 with
        | .error _ => mounted.image.files
        | .ok stop => mounted.image.files.moved handle file stop,
        result.2) := by
  change (session.tree geometry).write geometry ((session.disk geometry).counter .freeBlocks) file
    bytes = result at writes
  rw [outcome, Image.Operation.outcome, isFile]
  dsimp only
  rw [if_neg (by simp [writable]), writes]
  obtain ⟨answer, tree⟩ := result
  cases answer <;> rfl

theorem outcome_truncate (isFile : mounted.image.files.get handle = .ok file)
    (writable : file.mode.canWrite = true) (length : Nat) {result : Except FsError Unit × Tree}
    (truncates : (session.tree geometry).truncate geometry
      (session.word Superblock.freeBlocksOffset) file length = result) :
    session.outcome geometry mounted (.truncate handle length) =
      (result.1.map fun _ => .done, mounted.image.files, result.2) := by
  subst truncates
  rw [outcome, Image.Operation.outcome, isFile]
  dsimp only
  rw [if_neg (by simp [writable])]
  rfl

/-- No operation through a handle changes another node than that of its file. -/
theorem outcome_elsewhere (isFile : mounted.image.files.get handle = .ok file)
    {operation : Image.Operation} (through : operation.handle? = some handle) {other : Nat}
    (elsewhere : other ≠ file.inode) :
    (session.outcome geometry mounted operation).2.2 other = session.tree geometry other := by
  rw [outcome]
  cases operation with
  | closeFile _ =>
      rw [Image.Operation.outcome]
      split <;> rfl
  | read _ count =>
      cases through
      rw [Image.Operation.outcome, isFile]
      dsimp only
      split <;> rfl
  | seek _ origin delta =>
      cases through
      rw [Image.Operation.outcome, isFile]
      dsimp only
      split <;> rfl
  | write _ bytes =>
      cases through
      have kept := @Tree.write_elsewhere (session.tree geometry) _ _ elsewhere geometry
        ((session.disk geometry).counter .freeBlocks) bytes
      rw [Image.Operation.outcome, isFile]
      dsimp only
      split
      · rfl
      · split <;> next result => rw [result] at kept; exact kept
  | truncate _ length =>
      cases through
      rw [Image.Operation.outcome, isFile]
      dsimp only
      split
      · rfl
      · exact Tree.truncate_elsewhere elsewhere ..
  | _ => cases through

/-! Contents -/

/-- What is asked through a handle is answered from the content of its file, and what is done through it
is done to this content. Bytes between the end of the content and a later write are zeros, as are those
that a longer content gets. -/
structure Serves (geometry : Geometry) (session : Session) (index : Nat) (mounted : Host.Mounted)
    (handle : Nat) (file : OpenFile) (content : Bytes) : Prop where
  read (count : Nat) :
    let bytes := (content.drop file.offset).take count
    Yields geometry session index mounted (.read handle count) (.ok (.bytes bytes))
      (mounted.image.files.moved handle file (file.offset + bytes.length)) (session.tree geometry)
  seek (origin : Origin) (delta : Int) :
    let base := match origin with
      | .start => 0
      | .current => file.offset
      | .stop => content.length
    let position := (max 0 (min ((base : Int) + delta) content.length)).toNat
    Yields geometry session index mounted (.seek handle origin delta) (.ok (.position position))
      (mounted.image.files.moved handle file position) (session.tree geometry)
  write (writable : file.mode.canWrite = true) (bytes : Bytes) :
    let start := if file.mode = .append then content.length else file.offset
    let written := if bytes = [] then content
      else (content ++ Bytes.zeros (start - content.length)).overlay start bytes
    let extra := geometry.blocksFor written.length - geometry.blocksFor content.length
    (bytes.length < Limit.buffer → start + bytes.length < Limit.word64) ∧
    (Limit.word64 ≤ start + bytes.length →
      Yields geometry session index mounted (.write handle bytes) (.error (.misfit .writeOverflow))
        mounted.image.files (session.tree geometry)) ∧
    (start + bytes.length < Limit.word64 → session.word Superblock.freeBlocksOffset < extra →
      Yields geometry session index mounted (.write handle bytes) (.error .noFreeBlocks)
        mounted.image.files (session.tree geometry)) ∧
    (start + bytes.length < Limit.word64 → extra ≤ session.word Superblock.freeBlocksOffset →
      Yields geometry session index mounted (.write handle bytes) (.ok .done)
        (mounted.image.files.moved handle file (start + bytes.length))
        ((session.tree geometry).setContent file.inode written))
  truncate (writable : file.mode.canWrite = true) (length : Nat) :
    let resized := content.take length ++ Bytes.zeros (length - content.length)
    let extra := geometry.blocksFor length - geometry.blocksFor content.length
    (session.word Superblock.freeBlocksOffset < extra →
      Yields geometry session index mounted (.truncate handle length) (.error .noFreeBlocks)
        mounted.image.files (session.tree geometry)) ∧
    (extra ≤ session.word Superblock.freeBlocksOffset →
      Yields geometry session index mounted (.truncate handle length) (.ok .done)
        mounted.image.files ((session.tree geometry).setContent file.inode resized))
  elsewhere (operation : Image.Operation) (through : operation.handle? = some handle)
    (answer : Except Halt Image.Answer) (after : Session)
    (performed : session.perform index operation = some (answer, after)) :
    ∀ other, other ≠ file.inode → after.tree geometry other = session.tree geometry other

/-- In every reachable state a handle of a file that has not been removed serves its content. -/
theorem reachable_serves (reachable : Reachable geometry session)
    (isOpen : session.images[index]? = some mounted)
    (isFile : mounted.image.files.get? handle = some file)
    (live : (session.tree geometry).contentOf file = some content) :
    Serves geometry session index mounted handle file content := by
  have order := reachable.inOrder
  have isFile' := OpenFiles.get_eq_ok.mpr isFile
  have inside : file.offset ≤ geometry.imageLength ∧ content.length ≤ geometry.imageLength ∧
      geometry.imageLength ≤ Limit.hostOffset := by
    obtain ⟨chain, represents⟩ := order.represents
    have fit := (order.mounted mounted (List.mem_of_getElem? isOpen)).2.2
    exact ⟨(fit.of_get isFile').2.2, @Represents.length_contentOf _ _ _ (geometry.volume 0) represents _ _ live,
      represents.stored.lockable⟩
  refine ⟨?_, ?_, ?_, ?_, ?_⟩
  · intro count
    exact order.yields isOpen (outcome_read isFile' live count)
  · intro origin delta base position
    have yields := order.yields isOpen (outcome_seek isFile' live origin delta)
    have same : Represents.seekTarget file content origin delta = position := by
      change min ((base : Int) + delta).toNat content.length = position
      omega
    rwa [same] at yields
  · intro writable bytes start written extra
    have bound : start ≤ geometry.imageLength := by
      dsimp only [start]
      split
      · exact inside.2.1
      · exact inside.1
    have isWritten : content.written start bytes = written := by
      dsimp only [written]
      rw [Bytes.written]
      cases bytes <;> rfl
    have writes : (session.tree geometry).write geometry (session.word Superblock.freeBlocksOffset)
        file bytes =
          if Limit.word64 ≤ start + bytes.length then
            (.error (.misfit .writeOverflow), session.tree geometry)
          else if session.word Superblock.freeBlocksOffset < extra then
            (.error .noFreeBlocks, session.tree geometry)
          else (.ok (start + bytes.length), (session.tree geometry).setContent file.inode written) := by
      rw [Tree.write, live]
      change (if _ then _ else if _ < Tree.extraBlocks geometry _ (content.written start bytes).length
        then _ else (_, Tree.setContent _ _ (content.written start bytes))) = _
      rw [isWritten]
      rfl
    refine ⟨fun short => ?_, fun long => ?_, fun short full => ?_, fun short enough => ?_⟩
    · exact Nat.lt_of_lt_of_le (Nat.add_lt_add_of_le_of_lt (Nat.le_trans bound inside.2.2) short)
        (by decide)
    · rw [if_pos long] at writes
      exact order.yields isOpen (outcome_write isFile' writable bytes writes)
    · rw [if_neg (Nat.not_le.mpr short), if_pos full] at writes
      exact order.yields isOpen (outcome_write isFile' writable bytes writes)
    · rw [if_neg (Nat.not_le.mpr short), if_neg (Nat.not_lt.mpr enough)] at writes
      exact order.yields isOpen (outcome_write isFile' writable bytes writes)
  · intro writable length resized extra
    have truncates : (session.tree geometry).truncate geometry
        (session.word Superblock.freeBlocksOffset) file length =
          if session.word Superblock.freeBlocksOffset < extra then
            (.error .noFreeBlocks, session.tree geometry)
          else (.ok (), (session.tree geometry).setContent file.inode resized) := by
      rw [Tree.truncate, live]
      rfl
    refine ⟨fun full => ?_, fun enough => ?_⟩
    · rw [if_pos full] at truncates
      exact order.yields isOpen (outcome_truncate isFile' writable length truncates)
    · rw [if_neg (Nat.not_lt.mpr enough)] at truncates
      exact order.yields isOpen (outcome_truncate isFile' writable length truncates)
  · intro operation through answer after performed other elsewhere
    obtain ⟨after', performs, turns, -⟩ := order.perform isOpen operation
    rw [performs] at performed
    cases performed
    rw [turns.tree]
    exact outcome_elsewhere isFile' through elsewhere

/-- A handle serves the file that two bytes have been written into, behind which it stands. -/
theorem nested_file_serves :
    ∃ mounted, nested.images[0]? = some mounted ∧
      mounted.image.files.get? 0 = some nestedFile ∧
      (nested.tree ample).contentOf nestedFile = some [1, 2] ∧
      Serves ample nested 0 mounted 0 nestedFile [1, 2] := by
  obtain ⟨owner, stands⟩ := nested_stands
  have live : (nested.tree ample).contentOf nestedFile = some [1, 2] := by
    rw [stands.isTree]
    rfl
  exact ⟨_, stands.isOpen, rfl, live, reachable_serves stands.reachable stands.isOpen rfl live⟩

end Session

end ImageFs
