import ImageFs.Proofs.Failures
import ImageFs.Proofs.Rows

/-!
Writing bytes in two parts. Main statement: in every reachable state writing two byte strings one after
the other through a handle succeeds exactly when writing both at once does, and leaves the same file and
the same open files.
-/

namespace ImageFs

open Function (update)

/-! Contents -/

namespace Bytes

theorem length_le_written (content : Bytes) (offset : Nat) (patch : Bytes) :
    content.length ≤ (content.written offset patch).length := by
  by_cases none : patch = []
  · simp [none, written]
  · rw [length_written none]
    exact Nat.le_max_left ..

theorem written_append (content : Bytes) (offset : Nat) (first second : Bytes) :
    (content.written offset first).written (offset + first.length) second =
      content.written offset (first ++ second) := by
  by_cases none : first = []
  · simp [none, written]
  by_cases none' : second = []
  · simp [none', written]
  have reaches : offset + first.length ≤ (content.written offset first).length := by
    rw [length_written none]
    exact Nat.le_max_right ..
  have padded : offset ≤ (content ++ zeros (offset - content.length)).length := by
    rw [List.length_append, length_zeros]
    omega
  rw [written_of_ne_nil none', Nat.sub_eq_zero_of_le reaches, written_of_ne_nil none,
    written_of_ne_nil (by simp [none])]
  simp only [zeros, List.replicate_zero, List.append_nil]
  exact overlay_overlay first second padded

end Bytes

/-! What a write needs -/

namespace Tree

variable {geometry : Geometry} {free : Nat} {tree : Tree} {files : OpenFiles} {handle : Nat}
  {file : OpenFile} {content first second bytes : Bytes} {node offset : Nat}

theorem extraBlocks_add (geometry : Geometry) {length length' length'' : Nat}
    (longer : length ≤ length') (longer' : length' ≤ length'') :
    extraBlocks geometry length length' + extraBlocks geometry length' length'' =
      extraBlocks geometry length length'' := by
  have more := geometry.blocksFor_mono longer
  have more' := geometry.blocksFor_mono longer'
  unfold extraBlocks
  omega

/-- What is needed for the first part is needed for both, and the second part needs the rest. -/
theorem extraBlocks_append (geometry : Geometry) (content : Bytes) (offset : Nat)
    (first second : Bytes) :
    extraBlocks geometry content.length (content.written offset first).length +
        extraBlocks geometry (content.written offset first).length
          ((content.written offset first).written (offset + first.length) second).length =
      extraBlocks geometry content.length (content.written offset (first ++ second)).length := by
  rw [extraBlocks_add geometry (Bytes.length_le_written ..) (Bytes.length_le_written ..),
    Bytes.written_append]

/-- A handle is open for writing, and there is room for the bytes. -/
structure Accepts (geometry : Geometry) (free : Nat) (tree : Tree) (files : OpenFiles) (handle : Nat)
    (bytes : Bytes) (file : OpenFile) (content : Bytes) : Prop where
  isFile : files.get handle = .ok file
  writable : file.mode.canWrite = true
  live : tree.contentOf file = some content
  addressable : writeOffset file content + bytes.length < Limit.word64
  enough : extraBlocks geometry content.length
    (content.written (writeOffset file content) bytes).length ≤ free

theorem Accepts.write_eq (accepts : Accepts geometry free tree files handle bytes file content) :
    tree.write geometry free file bytes = (.ok (writeOffset file content + bytes.length),
      tree.setContent file.inode (content.written (writeOffset file content) bytes)) := by
  unfold write
  simp only [accepts.live, if_neg (Nat.not_le.mpr accepts.addressable),
    if_neg (Nat.not_lt.mpr accepts.enough)]

theorem Accepts.outcome_eq {disk : Disk}
    (accepts : Accepts geometry (disk.counter .freeBlocks) tree files handle bytes file content) :
    (Image.Operation.write handle bytes).outcome geometry disk tree files =
      (.ok .done, files.moved handle file (writeOffset file content + bytes.length),
        tree.setContent file.inode (content.written (writeOffset file content) bytes)) := by
  unfold Image.Operation.outcome
  simp [accepts.isFile, accepts.writable, accepts.write_eq]

theorem exists_accepts {disk : Disk} {answer : Image.Answer} (done :
    ((Image.Operation.write handle bytes).outcome geometry disk tree files).1 = .ok answer) :
    ∃ file content,
      Accepts geometry (disk.counter .freeBlocks) tree files handle bytes file content := by
  unfold Image.Operation.outcome at done
  cases isFile : files.get handle with
  | error error => simp [isFile] at done
  | ok file =>
      cases writable : file.mode.canWrite with
      | false => simp [isFile, writable] at done
      | true =>
          unfold write at done
          cases live : tree.contentOf file with
          | none => simp [isFile, writable, live] at done
          | some content =>
              simp only [isFile, writable, live] at done
              by_cases addressable : writeOffset file content + bytes.length < Limit.word64
              · by_cases enough : extraBlocks geometry content.length
                    (content.written (writeOffset file content) bytes).length ≤
                      disk.counter .freeBlocks
                · exact ⟨file, content, isFile, writable, live, addressable, enough⟩
                · simp [Nat.not_le.mpr addressable, Nat.not_le.mp enough] at done
              · simp [Nat.not_lt.mp addressable] at done

/-! Behind a write -/

theorem contentOf_setContent (live : tree.contentOf file = some content) (content' : Bytes)
    (offset : Nat) :
    (tree.setContent file.inode content').contentOf { file with offset } = some content' := by
  obtain ⟨-, generation⟩ := contentOf_eq_some.mp live
  simp [contentOf, setContent, generation]

/-- The next write starts where the last one ended, also at the end of the file. -/
theorem writeOffset_behind (file : OpenFile) (content bytes : Bytes) :
    writeOffset { file with offset := writeOffset file content + bytes.length }
        (content.written (writeOffset file content) bytes) =
      writeOffset file content + bytes.length := by
  unfold writeOffset
  by_cases appends : file.mode = .append
  · by_cases none : bytes = []
    · simp [appends, none, Bytes.written]
    · simp only [appends, if_true]
      rw [Bytes.length_written none]
      omega
  · simp [appends]

theorem Accepts.front
    (accepts : Accepts geometry free tree files handle (first ++ second) file content) :
    Accepts geometry free tree files handle first file content where
  isFile := accepts.isFile
  writable := accepts.writable
  live := accepts.live
  addressable := by
    have addressable := accepts.addressable
    rw [List.length_append] at addressable
    omega
  enough := by
    have enough := accepts.enough
    rw [← extraBlocks_append] at enough
    omega

theorem Accepts.unique (accepts : Accepts geometry free tree files handle first file content)
    {file' : OpenFile} {content' : Bytes}
    (accepts' : Accepts geometry free tree files handle second file' content') :
    file' = file ∧ content' = content := by
  have sameFile := accepts'.isFile
  rw [accepts.isFile] at sameFile
  cases sameFile
  have sameContent := accepts'.live
  rw [accepts.live] at sameContent
  cases sameContent
  exact ⟨rfl, rfl⟩

/-- After the first part has been written, the handle is as good for the second part as it was for
both. -/
theorem Accepts.append_iff (accepts : Accepts geometry free tree files handle first file content)
    (second : Bytes) :
    Accepts geometry free tree files handle (first ++ second) file content ↔
      Accepts geometry
        (free - extraBlocks geometry content.length
          (content.written (writeOffset file content) first).length)
        (tree.setContent file.inode (content.written (writeOffset file content) first))
        (files.moved handle file (writeOffset file content + first.length)) handle second
        { file with offset := writeOffset file content + first.length }
        (content.written (writeOffset file content) first) := by
  have needs := extraBlocks_append geometry content (writeOffset file content) first second
  have room := accepts.enough
  constructor
  · intro both
    have addressable := both.addressable
    have enough := both.enough
    refine ⟨?_, accepts.writable, contentOf_setContent accepts.live _ _, ?_, ?_⟩
    · rw [OpenFiles.get_eq_ok, OpenFiles.get?_moved accepts.isFile, if_pos rfl]
    · rwa [writeOffset_behind, Nat.add_assoc, ← List.length_append]
    · rw [writeOffset_behind]
      omega
  · intro rest
    have addressable := rest.addressable
    have enough := rest.enough
    rw [writeOffset_behind] at addressable enough
    refine ⟨accepts.isFile, accepts.writable, accepts.live, ?_, ?_⟩
    · rwa [List.length_append, ← Nat.add_assoc]
    · omega

/-- A handle that has been written through accepts that nothing is written. -/
theorem Accepts.next (accepts : Accepts geometry free tree files handle first file content) :
    Accepts geometry
      (free - extraBlocks geometry content.length
        (content.written (writeOffset file content) first).length)
      (tree.setContent file.inode (content.written (writeOffset file content) first))
      (files.moved handle file (writeOffset file content + first.length)) handle []
      { file with offset := writeOffset file content + first.length }
      (content.written (writeOffset file content) first) := by
  refine (accepts.append_iff []).mp ?_
  rwa [List.append_nil]

/-! The disk behind two writes -/

variable {disk : Disk} {chain : Nat → List Nat}

theorem writtenBits_append (length : disk.bitmap.length = geometry.bitmapLength)
    (clear : extraBlocks geometry content.length (content.written offset first).length ≤
      FirstFit.clearUsable disk.bitmap geometry.blocks) :
    writtenBits geometry disk content offset first ++
        writtenBits geometry (tree.writtenDisk geometry disk chain node content offset first)
          (content.written offset first) (offset + first.length) second =
      writtenBits geometry disk content offset (first ++ second) := by
  refine (Disk.nextBits_append length clear _).trans ?_
  rw [extraBlocks_append, writtenBits]

theorem writtenBlocks_append (length : disk.bitmap.length = geometry.bitmapLength)
    (clear : extraBlocks geometry content.length (content.written offset first).length ≤
      FirstFit.clearUsable disk.bitmap geometry.blocks) :
    writtenBlocks geometry (tree.writtenDisk geometry disk chain node content offset first)
        (update chain node (writtenBlocks geometry disk chain node content offset first)) node
        (content.written offset first) (offset + first.length) second =
      writtenBlocks geometry disk chain node content offset (first ++ second) := by
  unfold writtenBlocks
  rw [Function.update_self, List.append_assoc, ← List.map_append, writtenBits_append length clear]

/-- The disk after a write stands for the tree after it. -/
def StandsAfter (geometry : Geometry) (disk : Disk) (tree : Tree) (chain : Nat → List Nat)
    (node : Nat) (content : Bytes) (offset : Nat) (bytes : Bytes) : Prop :=
  Represents geometry (tree.writtenDisk geometry disk chain node content offset bytes)
    (tree.setContent node (content.written offset bytes))
    (update chain node (writtenBlocks geometry disk chain node content offset bytes))

/-- The bytes that were written lie in the chain. -/
theorem StandsAfter.fits (stands : StandsAfter geometry disk tree chain node content offset bytes)
    (some : bytes ≠ []) : offset + bytes.length ≤
      (writtenBlocks geometry disk chain node content offset bytes).length * geometry.payloadSize := by
  have capacity := @Stored.stored_le (geometry.volume 0) _ _ _ stands.stored node
  change ((tree.setContent node (content.written offset bytes)) node).body.stored.length ≤
    (update chain node _ node).length * geometry.payloadSize at capacity
  simp only [setContent, Function.update_self, Body.stored, Bytes.length_written some] at capacity
  omega

/-- Writing in two parts leaves the disk that writing at once leaves. -/
theorem writtenDisk_append (represents : Represents geometry disk tree chain)
    (clear : extraBlocks geometry content.length (content.written offset first).length ≤
      FirstFit.clearUsable disk.bitmap geometry.blocks)
    (stands : StandsAfter geometry disk tree chain node content offset first)
    (stands' : StandsAfter geometry disk tree chain node content offset (first ++ second)) :
    (tree.setContent node (content.written offset first)).writtenDisk geometry
        (tree.writtenDisk geometry disk chain node content offset first)
        (update chain node (writtenBlocks geometry disk chain node content offset first)) node
        (content.written offset first) (offset + first.length) second =
      tree.writtenDisk geometry disk chain node content offset (first ++ second) := by
  have ledger := represents.stored.ledger
  have bits := @writtenBits_append geometry tree content first second node offset disk chain
    ledger.bitmap clear
  have blocks := @writtenBlocks_append geometry tree content first second node offset disk chain
    ledger.bitmap clear
  have nodup := stands'.stored.ledger.nodup node
  rw [Function.update_self, writtenBlocks, ← bits] at nodup
  have lengths : ∀ block ∈ chain node, (disk.payload block).length = geometry.payloadSize :=
    fun block member => ledger.lengths block (ledger.isData node block member)
  have node' : { tree.setContent node (content.written offset first) node with
      body := .file ((content.written offset first).written (offset + first.length) second) } =
        ({ tree node with body := .file (content.written offset (first ++ second)) } : Node) := by
    simp [setContent, Bytes.written_append]
  rw [writtenDisk, blocks, node', Function.update_self]
  refine (Disk.store_append (ledger.linked node) nodup lengths stands.fits).trans ?_
  rw [bits]
  rfl

end Tree

theorem OpenFiles.moved_moved (files : OpenFiles) (handle : Nat) (file : OpenFile)
    (offset offset' : Nat) :
    (files.moved handle file offset).moved handle { file with offset } offset' =
      files.moved handle file offset' := by
  simp [moved]

theorem Represents.hasFree {geometry : Geometry} {disk : Disk} {tree : Tree}
    {chain : Nat → List Nat} (represents : Represents geometry disk tree chain) {count : Nat}
    (enough : count ≤ disk.counter .freeBlocks) : disk.HasFree geometry count := by
  have ledger := represents.stored.ledger
  rw [ledger.free] at enough
  exact @Ledger.hasFree (geometry.volume 0) _ _ _ ledger enough

/-! Sessions -/

namespace Session

variable {geometry : Geometry} {session middle after final : Session} {chain : Nat → List Nat}
  {index handle : Nat} {mounted : Host.Mounted} {file : OpenFile} {content first second bytes : Bytes}

/-- An image has written bytes through a handle. -/
structure Wrote (geometry : Geometry) (session : Session) (chain : Nat → List Nat) (index : Nat)
    (mounted : Host.Mounted) (handle : Nat) (file : OpenFile) (content bytes : Bytes)
    (after : Session) : Prop where
  performs : session.perform index (.write handle bytes) = some (.ok .done, after)
  turns : Turns geometry session index mounted
    (mounted.image.files.moved handle file (Tree.writeOffset file content + bytes.length))
    ((session.tree geometry).setContent file.inode
      (content.written (Tree.writeOffset file content) bytes)) after
  disk : after.disk geometry = (session.tree geometry).writtenDisk geometry (session.disk geometry)
    chain file.inode content (Tree.writeOffset file content) bytes
  stands : (session.tree geometry).StandsAfter geometry (session.disk geometry) chain file.inode
    content (Tree.writeOffset file content) bytes
  path : after.path = session.path
  host : after.host = session.host.put session.path (.file after.backing)

/-- An image accepts bytes through a handle. -/
def Accepts (geometry : Geometry) (session : Session) (mounted : Host.Mounted) (handle : Nat)
    (bytes : Bytes) (file : OpenFile) (content : Bytes) : Prop :=
  Tree.Accepts geometry ((session.disk geometry).counter .freeBlocks) (session.tree geometry)
    mounted.image.files handle bytes file content

namespace InOrder

variable (order : session.InOrder geometry) (isOpen : session.images[index]? = some mounted)

include order isOpen

/-- An image can go on after each operation. -/
theorem performs (operation : Image.Operation) :
    ∃ answer after mounted', session.perform index operation = some (answer, after) ∧
      after.InOrder geometry ∧ after.images[index]? = some mounted' := by
  obtain ⟨after, performs, turns, -⟩ := order.perform isOpen operation
  exact ⟨_, after, _, performs, turns.inOrder, turns.isOpen isOpen⟩

/-- What the image accepts, it writes. -/
theorem wrote (represents : Represents geometry (session.disk geometry) (session.tree geometry) chain)
    (accepts : session.Accepts geometry mounted handle bytes file content) :
    ∃ after, Wrote geometry session chain index mounted handle file content bytes after := by
  obtain ⟨-, isGeometry, fit⟩ := order.mounted mounted (List.mem_of_getElem? isOpen)
  subst isGeometry
  obtain ⟨taken, inside, -⟩ := fit.of_get accepts.isFile
  obtain ⟨body, -⟩ := Tree.contentOf_eq_some.mp accepts.live
  obtain ⟨leads, stands⟩ := represents.writeAt_leads (Nat.ne_of_gt taken) body accepts.addressable
    accepts.enough
  have acts := Represents.writeFile_acts accepts.isFile inside accepts.writable
    (represents.writeLocked_leads accepts.live leads)
  have outcome := Tree.Accepts.outcome_eq accepts
  have fit' := represents.fit_outcome fit (.write handle bytes) (by rw [outcome]; exact stands)
  rw [outcome] at fit'
  obtain ⟨after, performs, turns, disk, path, host⟩ :=
    order.perform_of_acts isOpen acts stands fit'
  exact ⟨after, performs, turns, disk, stands, path, host⟩

/-- What the image does not accept, it refuses. -/
theorem refuses {answer : Except Halt Image.Answer}
    (performed : session.perform index (.write handle bytes) = some (answer, after))
    (rejected : ∀ file content, ¬ session.Accepts geometry mounted handle bytes file content) :
    answer ≠ .ok .done := by
  rintro rfl
  obtain ⟨after', performs, -⟩ := order.perform isOpen (.write handle bytes)
  rw [performs] at performed
  cases answered : (session.outcome geometry mounted (.write handle bytes)).1 with
  | error error =>
      rw [answered] at performed
      cases performed
  | ok answer =>
      rw [answered] at performed
      cases performed
      obtain ⟨file, content, accepts⟩ := Tree.exists_accepts answered
      exact rejected file content accepts

end InOrder

namespace Wrote

variable (wrote : Wrote geometry session chain index mounted handle file content first middle)

include wrote

theorem represents : Represents geometry (middle.disk geometry) (middle.tree geometry)
    (update chain file.inode (Tree.writtenBlocks geometry (session.disk geometry) chain file.inode
      content (Tree.writeOffset file content) first)) := by
  rw [wrote.disk, wrote.turns.tree]
  exact wrote.stands

theorem freeBlocks (hasFree : (session.disk geometry).HasFree geometry
      (Tree.extraBlocks geometry content.length
        (content.written (Tree.writeOffset file content) first).length)) :
    (middle.disk geometry).counter .freeBlocks = (session.disk geometry).counter .freeBlocks -
      Tree.extraBlocks geometry content.length
        (content.written (Tree.writeOffset file content) first).length := by
  rw [wrote.disk, ← hasFree.length_nextBits]
  exact @Disk.handOut_freeBlocks geometry (session.disk geometry) _

/-- After both parts have been written, the session is the one after writing them at once. -/
theorem eq_of_append
    (represents : Represents geometry (session.disk geometry) (session.tree geometry) chain)
    (accepts : session.Accepts geometry mounted handle first file content)
    (wrote' : Wrote geometry middle
      (update chain file.inode (Tree.writtenBlocks geometry (session.disk geometry) chain file.inode
        content (Tree.writeOffset file content) first)) index
      { mounted with
        image.files := mounted.image.files.moved handle file
          (Tree.writeOffset file content + first.length) } handle
      { file with offset := Tree.writeOffset file content + first.length }
      (content.written (Tree.writeOffset file content) first) second final)
    (both : Wrote geometry session chain index mounted handle file content (first ++ second) after) :
    after = final := by
  have disk : after.disk geometry = final.disk geometry := by
    rw [both.disk, wrote'.disk, wrote.disk, wrote.turns.tree, Tree.writeOffset_behind]
    exact (Tree.writtenDisk_append represents (represents.hasFree accepts.enough).clear wrote.stands
      both.stands).symm
  have backing := wrote'.turns.inOrder.backing_eq_of_disk both.turns.inOrder disk
  have host : after.host = final.host := by
    rw [both.host, wrote'.host, wrote.host, wrote.path, Host.put_put, backing]
  have path : after.path = final.path := by
    rw [both.path, wrote'.path, wrote.path]
  have images : after.images = final.images := by
    rw [both.turns.images, wrote'.turns.images, wrote.turns.images, List.set_set,
      Tree.writeOffset_behind, List.length_append, ← Nat.add_assoc]
    simp only [OpenFiles.moved_moved]
  cases after
  cases final
  cases host
  cases path
  cases images
  rfl

end Wrote

/-- Two bytes can be written into the first file of an image with a block for it. -/
theorem roomy_image_accepts :
    let session := (new roomy).run [(0, .create "/a" .file), (0, .openFile "/a" .readWrite)]
    ∃ mounted, session.images[0]? = some mounted ∧
      session.Accepts roomy mounted 0 [1, 2] ⟨2, 0, "a", 0, .readWrite⟩ [] := by
  intro session
  obtain ⟨owner, stands⟩ := @new_stands roomy [0, 1] (by decide) (by decide)
  have split : Path.splitLast "/a" = .ok ([], "a") := by decide +kernel
  have components : Path.components "/a" = .ok ["a"] := by decide +kernel
  obtain ⟨first, performs, stands⟩ :=
    @Stands.create _ _ _ _ _ stands _ .file _ _ _ _ _ split rfl rfl rfl (by decide) (by decide)
  have leads : Represents.resolved (Tree.fresh.enter 0 2 "a" .file) "/a" = .ok 2 := by
    rw [Represents.resolved, components]
    rfl
  obtain ⟨second, performs', stands⟩ :=
    @Stands.openFile _ _ _ _ _ stands _ .readWrite _ _ leads rfl
      (show 0 < Limit.word32 by decide)
  have isSecond : session = second := by
    rw [show session = (new roomy).run _ from rfl, run_of_performs performs, run_of_performs performs']
    rfl
  have free : 1 ≤ (second.disk roomy).counter .freeBlocks :=
    Nat.le_of_add_le_add_right (Nat.le_trans (by decide) stands.room)
  rw [isSecond]
  refine ⟨_, stands.isOpen, rfl, rfl, ?_, by decide, free⟩
  rw [stands.isTree]
  rfl

/-- Writing two byte strings one after the other succeeds when writing both at once does, and then it
comes to the same: the file, the open files and their offsets are equal. What the image accepts is
written. -/
theorem write_in_parts (reachable : Reachable geometry session)
    (isOpen : session.images[index]? = some mounted) (handle : Nat) (first second : Bytes) :
    ∃ whole after front middle back final,
      session.perform index (.write handle (first ++ second)) = some (whole, after) ∧
      session.perform index (.write handle first) = some (front, middle) ∧
      middle.perform index (.write handle second) = some (back, final) ∧
      (whole = .ok .done ↔ front = .ok .done ∧ back = .ok .done) ∧
      (whole = .ok .done → after = final) ∧
      ∀ file content, session.Accepts geometry mounted handle (first ++ second) file content →
        whole = .ok .done ∧ after.tree geometry = (session.tree geometry).setContent file.inode
          (content.written (Tree.writeOffset file content) (first ++ second)) := by
  have order := reachable.inOrder
  obtain ⟨chain, represents⟩ := order.represents
  obtain ⟨whole, after, -, performsWhole, -⟩ := order.performs isOpen (.write handle (first ++ second))
  by_cases accepted : ∃ file content, session.Accepts geometry mounted handle first file content
  · obtain ⟨file, content, accepts⟩ := accepted
    obtain ⟨middle, wrote⟩ := order.wrote isOpen represents accepts
    have order' := wrote.turns.inOrder
    have isOpen' := wrote.turns.isOpen isOpen
    have step := accepts.append_iff second
    have next := accepts.next
    rw [← wrote.freeBlocks (represents.hasFree accepts.enough), ← wrote.turns.tree] at step next
    by_cases both : session.Accepts geometry mounted handle (first ++ second) file content
    · obtain ⟨after, wroteBoth⟩ := order.wrote isOpen represents both
      obtain ⟨final, wrote'⟩ := order'.wrote isOpen' wrote.represents (step.mp both)
      refine ⟨_, after, _, middle, _, final, wroteBoth.performs, wrote.performs, wrote'.performs,
        by simp, fun _ => wrote.eq_of_append represents accepts wrote' wroteBoth, ?_⟩
      intro file' content' accepts'
      obtain ⟨rfl, rfl⟩ := Tree.Accepts.unique accepts accepts'
      exact ⟨rfl, wroteBoth.turns.tree⟩
    · obtain ⟨back, final, -, performsBack, -⟩ := order'.performs isOpen' (.write handle second)
      have rejected : ∀ file content,
          ¬ session.Accepts geometry mounted handle (first ++ second) file content := by
        intro file' content' accepts'
        obtain ⟨rfl, rfl⟩ := Tree.Accepts.unique accepts accepts'
        exact both accepts'
      have refused := order.refuses isOpen performsWhole rejected
      have refused' : back ≠ .ok .done := by
        refine order'.refuses isOpen' performsBack fun file' content' accepts' => both ?_
        obtain ⟨rfl, rfl⟩ := next.unique accepts'
        exact step.mpr accepts'
      exact ⟨whole, after, _, middle, back, final, performsWhole, wrote.performs, performsBack,
        by simp [refused, refused'], fun done => absurd done refused,
        fun file content accepts => absurd accepts (rejected file content)⟩
  · obtain ⟨front, middle, _, performsFront, order', isOpen'⟩ :=
      order.performs isOpen (.write handle first)
    obtain ⟨back, final, -, performsBack, -⟩ := order'.performs isOpen' (.write handle second)
    have rejected : ∀ file content,
        ¬ session.Accepts geometry mounted handle (first ++ second) file content :=
      fun file content accepts => accepted ⟨file, content, Tree.Accepts.front accepts⟩
    have refused := order.refuses isOpen performsWhole rejected
    have refused' : front ≠ .ok .done := order.refuses isOpen performsFront
      fun file content accepts => accepted ⟨file, content, accepts⟩
    exact ⟨whole, after, front, middle, back, final, performsWhole, performsFront, performsBack,
      by simp [refused, refused'], fun done => absurd done refused,
      fun file content accepts => absurd accepts (rejected file content)⟩

/-- Two bytes are written into a new file at once or one by one. -/
theorem roomy_image_write_in_parts :
    let session := (new roomy).run [(0, .create "/a" .file), (0, .openFile "/a" .readWrite)]
    ∃ mounted, Reachable roomy session ∧ session.images[0]? = some mounted ∧
      ∃ after middle, session.perform 0 (.write 0 [1, 2]) = some (.ok .done, after) ∧
        session.perform 0 (.write 0 [1]) = some (.ok .done, middle) ∧
        middle.perform 0 (.write 0 [2]) = some (.ok .done, after) ∧
        (after.tree roomy 2).body = .file [1, 2] := by
  obtain ⟨mounted, isOpen, accepts⟩ := roomy_image_accepts
  have reachable := (@new_reachable roomy (by decide)).1.run
    [(0, .create "/a" .file), (0, .openFile "/a" .readWrite)]
  obtain ⟨whole, after, front, middle, back, final, performs, performs', performs'', succeeds, same,
    written⟩ := write_in_parts reachable isOpen 0 [1] [2]
  obtain ⟨rfl, isTree⟩ := written _ _ accepts
  obtain ⟨rfl, rfl⟩ := succeeds.mp rfl
  cases same rfl
  refine ⟨mounted, reachable, isOpen, after, middle, performs, performs', performs'', ?_⟩
  rw [isTree]
  rfl

end Session

end ImageFs
