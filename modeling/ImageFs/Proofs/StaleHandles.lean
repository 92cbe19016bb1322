import ImageFs.Proofs.Emptyings

/-!
Handles of files that have been removed. Main statement: in every reachable state a handle reaches its own
file until this is removed, and afterwards no other file, until its slot has been emptied as often as
there are generations.
-/

namespace ImageFs

/-! Handles after an operation -/

namespace Image.Operation

variable {geometry : Geometry} {disk : Disk} {tree : Tree} {files : OpenFiles} {handle : Nat}
  {file : OpenFile}

/-- Reading and seeking in every mode, and writing and resizing in those that allow it. -/
def Accesses (handle : Nat) (file : OpenFile) : Image.Operation → Prop
  | read handle' _ => handle' = handle
  | seek handle' _ _ => handle' = handle
  | write handle' _ => handle' = handle ∧ file.mode.canWrite = true
  | truncate handle' _ => handle' = handle ∧ file.mode.canWrite = true
  | _ => False

/-- What an operation can do to the open files: nothing, moving an offset, opening or closing one. -/
theorem files_outcome (operation : Image.Operation) :
    let outcome := operation.outcome geometry disk tree files
    (outcome.2.1 = files ∧ ∀ handle, operation = .closeFile handle → files.get? handle = none) ∨
    (∃ other moved offset, (∀ handle, operation ≠ .closeFile handle) ∧
      files.get other = .ok moved ∧ outcome.2.1 = files.moved other moved offset) ∨
    (∃ path mode opened, operation = .openFile path mode ∧
      outcome.1 = (files.insert opened).1.map .handle ∧ outcome.2.1 = (files.insert opened).2) ∨
    ∃ other closed files', operation = .closeFile other ∧
      files.remove other = .ok (closed, files') ∧ outcome.2.1 = files' := by
  by_cases closes : ∃ other, operation = .closeFile other
  · obtain ⟨other, rfl⟩ := closes
    rw [outcome]
    split
    · next fails =>
      refine .inl ⟨rfl, ?_⟩
      rintro handle ⟨⟩
      rw [OpenFiles.remove] at fails
      split at fails
      · cases fails
      · next missing => exact missing
    · next removed => exact .inr (.inr (.inr ⟨other, _, _, rfl, removed, rfl⟩))
  · have stays (handle : Nat) : operation ≠ .closeFile handle := fun same => closes ⟨handle, same⟩
    have never (handle : Nat) (same : operation = .closeFile handle) : files.get? handle = none :=
      absurd same (stays handle)
    cases operation with
    | openFile path mode =>
        rw [outcome]
        split
        · exact .inl ⟨rfl, never⟩
        · exact .inr (.inr (.inl ⟨path, mode, _, rfl, rfl, rfl⟩))
    | closeFile other => exact absurd rfl (stays other)
    | read other count =>
        rw [outcome]
        split
        · exact .inl ⟨rfl, never⟩
        · next isOther =>
          dsimp only
          split
          · exact .inl ⟨rfl, never⟩
          · exact .inr (.inl ⟨other, _, _, stays, isOther, rfl⟩)
    | write other bytes =>
        rw [outcome]
        split
        · exact .inl ⟨rfl, never⟩
        · next isOther =>
          split
          · exact .inl ⟨rfl, never⟩
          · split
            · exact .inl ⟨rfl, never⟩
            · exact .inr (.inl ⟨other, _, _, stays, isOther, rfl⟩)
    | seek other origin delta =>
        rw [outcome]
        split
        · exact .inl ⟨rfl, never⟩
        · next isOther =>
          dsimp only
          split
          · exact .inl ⟨rfl, never⟩
          · exact .inr (.inl ⟨other, _, _, stays, isOther, rfl⟩)
    | truncate other length =>
        rw [outcome]
        split
        · exact .inl ⟨rfl, never⟩
        · split <;> exact .inl ⟨rfl, never⟩
    | _ => exact .inl ⟨rfl, never⟩

/-- Only closing its handle takes a file out of the open files, and only its offset can change. -/
theorem get?_outcome (isOpen : files.get? handle = some file) {operation : Image.Operation}
    (stays : operation ≠ .closeFile handle) : ∃ offset,
      (operation.outcome geometry disk tree files).2.1.get? handle = some { file with offset } := by
  rcases @files_outcome geometry disk tree files operation with ⟨same, -⟩ |
    ⟨other, moved, offset, -, isOther, same⟩ | ⟨path, mode, opened, -, -, same⟩ |
    ⟨other, closed, files', rfl, removed, same⟩
  · exact ⟨file.offset, by rw [same, isOpen]⟩
  · rw [same, OpenFiles.get?_moved isOther]
    split
    · next isHandle =>
      subst isHandle
      cases isOpen.symm.trans (OpenFiles.get_eq_ok.mp isOther)
      exact ⟨offset, rfl⟩
    · exact ⟨file.offset, isOpen⟩
  · have notFree : handle ≠ OpenFiles.lowestFree files.slots := by
      rintro rfl
      rw [files.get?_lowestFree] at isOpen
      cases isOpen
    refine ⟨file.offset, ?_⟩
    rw [same, OpenFiles.get?_insert, if_neg notFree, isOpen]
  · have different : handle ≠ other := by
      rintro rfl
      exact stays rfl
    refine ⟨file.offset, ?_⟩
    rw [same, OpenFiles.get?_remove removed, if_neg different, isOpen]

/-- A file that is open afterwards was open before, or has just been opened. -/
theorem of_get?_outcome {operation : Image.Operation}
    (isOpen : (operation.outcome geometry disk tree files).2.1.get? handle = some file) :
    ((files.get? handle).isSome ∧ operation ≠ .closeFile handle) ∨
      ∃ path mode, operation = .openFile path mode ∧
        (handle < Limit.word32 →
          (operation.outcome geometry disk tree files).1 = .ok (.handle handle)) := by
  rcases @files_outcome geometry disk tree files operation with ⟨same, closes⟩ |
    ⟨other, moved, offset, stays, isOther, same⟩ | ⟨path, mode, opened, rfl, answers, same⟩ |
    ⟨other, closed, files', rfl, removed, same⟩
  · rw [same] at isOpen
    refine .inl ⟨Option.isSome_of_eq_some isOpen, fun isClose => ?_⟩
    rw [closes handle isClose] at isOpen
    cases isOpen
  · refine .inl ⟨?_, stays handle⟩
    rw [same, OpenFiles.get?_moved isOther] at isOpen
    split at isOpen
    · next isHandle =>
      subst isHandle
      exact Option.isSome_of_eq_some (OpenFiles.get_eq_ok.mp isOther)
    · exact Option.isSome_of_eq_some isOpen
  · rw [same, OpenFiles.get?_insert] at isOpen
    split at isOpen
    · next isNew =>
      refine .inr ⟨path, mode, rfl, fun isHandle => ?_⟩
      subst isNew
      rw [answers]
      change Except.map _ (if _ then _ else _) = _
      rw [if_pos isHandle]
      rfl
    · exact .inl ⟨Option.isSome_of_eq_some isOpen, by simp⟩
  · rw [same, OpenFiles.get?_remove removed] at isOpen
    split at isOpen
    · cases isOpen
    · next different =>
      refine .inl ⟨Option.isSome_of_eq_some isOpen, ?_⟩
      rintro ⟨⟩
      exact different rfl

end Image.Operation

/-! Files since they were opened -/

namespace Tree

variable {tree tree' : Tree} {path : String} {file : OpenFile} {log log' : List Emptying}

/-- The open file was under the path in a tree that has aged since then as the log says. -/
def Stems (tree : Tree) (path : String) (file : OpenFile) (log : List Emptying) : Prop :=
  ∃ origin names content, Ages origin tree log ∧ Path.components path = .ok names ∧
    origin.resolve names = some file.inode ∧
    origin file.inode = { name := file.name, generation := file.generation, body := .file content }

theorem Stems.ages (stems : tree.Stems path file log) (ages : tree.Ages tree' log') :
    tree'.Stems path file (log ++ log') := by
  obtain ⟨origin, names, content, since, facts⟩ := stems
  exact ⟨origin, names, content, since.trans ages, facts⟩

theorem Stems.of_opened {slots : Nat} (wellFormed : tree.WellFormed slots) {mode : AccessMode}
    (opened : tree.opened path mode = .ok file) : tree.Stems path file [] := by
  rw [Tree.opened, Represents.resolved] at opened
  split at opened
  · cases opened
  · next node resolved =>
    split at resolved
    · cases resolved
    · next names components =>
      split at resolved
      · next found leads =>
        cases resolved
        have live := wellFormed.resolve_live leads
        cases body : (tree node).body with
        | directory children =>
            rw [body] at opened
            cases opened
        | vacant => exact absurd body live
        | file content =>
            rw [body] at opened
            cases opened
            exact ⟨tree, names, content, .refl tree, components, leads, by rw [← body]⟩
      · cases resolved

theorem Stems.generation (stems : tree.Stems path file log) : (tree file.inode).generation =
    file.generation + UInt8.ofNat (emptyings file.inode log) := by
  obtain ⟨origin, names, content, since, -, -, isFile⟩ := stems
  rw [since.generation, isFile]

theorem Stems.of_kept (stems : tree.Stems path file log) (kept : ⟨file.inode, .removal⟩ ∉ log) :
    emptyings file.inode log = 0 ∧ ∃ names content, Path.components path = .ok names ∧
      tree.resolve names = some file.inode ∧
      tree file.inode = {
        name := file.name
        generation := file.generation
        body := .file content } := by
  obtain ⟨origin, names, content, since, components, leads, isFile⟩ := stems
  obtain ⟨none, content', isFile'⟩ := since.file (congrArg Node.body isFile) kept
  refine ⟨none, names, content', components, since.path leads kept, ?_⟩
  rw [isFile', isFile]

/-- The generations come round after 256 times. -/
theorem Stems.contentOf_eq_none (stems : tree.Stems path file log) : tree.contentOf file = none ↔
    (∀ content, (tree file.inode).body ≠ .file content) ∨ ¬ 256 ∣ emptyings file.inode log := by
  have comesRound : (tree file.inode).generation = file.generation ↔
      256 ∣ emptyings file.inode log := by
    rw [stems.generation, UInt8.add_eq_left, UInt8.ofNat_eq_iff_mod_eq_toNat,
      Nat.dvd_iff_mod_eq_zero]
    rfl
  rw [← comesRound, contentOf]
  cases (tree file.inode).body <;> simp

end Tree

namespace Session

variable {geometry : Geometry} {session after : Session} {index handle : Nat}
  {mounted : Host.Mounted} {path : String} {file : OpenFile} {log : List Emptying}

/-- An image has had a handle open for the file of a path, and since then slots have been emptied as the
log says. The images after one that is closed move up. -/
inductive OpenSince (geometry : Geometry) :
    Session → Nat → Nat → String → List Emptying → Prop where
  | openFile {session after : Session} {index handle : Nat} {path : String} {mode : AccessMode}
      (reachable : Reachable geometry session)
      (opened : session.perform index (.openFile path mode) = some (.ok (.handle handle), after)) :
      OpenSince geometry after index handle path []
  | openImage {session : Session} {after : Host} {name : String} {mounted : Host.Mounted}
      {index handle : Nat} {path : String} {log : List Emptying}
      (since : OpenSince geometry session index handle path log)
      (opened : session.host.openImage name = (.ok mounted, after))
      (same : mounted.path = session.path) :
      OpenSince geometry { session with host := after, images := session.images ++ [mounted] }
        index handle path log
  | perform {session after : Session} {performer index handle : Nat} {path : String}
      {log : List Emptying} {operation : Image.Operation} {answer : Except Halt Image.Answer}
      (since : OpenSince geometry session index handle path log)
      (performed : session.perform performer operation = some (answer, after))
      (stays : performer = index → operation ≠ .closeFile handle) :
      OpenSince geometry after index handle path
        (log ++ session.emptied geometry operation answer)
  | closeImage {session : Session} {closed index handle : Nat} {path : String} {log : List Emptying}
      {mounted : Host.Mounted} (since : OpenSince geometry session index handle path log)
      (isOpen : session.images[closed]? = some mounted) (other : closed ≠ index) :
      OpenSince geometry { session with
        host := (session.host.closeImage mounted).2
        images := session.images.eraseIdx closed }
        (if closed < index then index - 1 else index) handle path log

theorem OpenSince.reachable (since : OpenSince geometry session index handle path log) :
    Reachable geometry session := by
  induction since with
  | openFile reachable opened => exact reachable.perform opened
  | openImage _ opened same reachable => exact reachable.openImage opened same
  | perform _ performed _ reachable => exact reachable.perform performed
  | closeImage _ isOpen _ reachable => exact reachable.closeImage isOpen

/-- An open handle has a file, which stems from the tree in which it was opened. -/
theorem OpenSince.stems (since : OpenSince geometry session index handle path log) :
    ∃ mounted file, session.images[index]? = some mounted ∧
      mounted.image.files.get? handle = some file ∧
      (session.tree geometry).Stems path file log := by
  induction since with
  | @openFile session after index handle path mode reachable opened =>
      have order := reachable.inOrder
      obtain ⟨mounted, isOpen⟩ := isSome_of_perform opened
      obtain ⟨after', performs, turns, -⟩ := order.perform isOpen (.openFile path mode)
      rw [performs] at opened
      obtain ⟨chain, represents⟩ := order.represents
      have inside := (List.getElem?_eq_some_iff.mp isOpen).1
      cases isFile : (session.tree geometry).opened path mode with
      | error error =>
          rw [outcome, Image.Operation.outcome, isFile] at opened
          cases opened
      | ok file =>
          have isTree : after'.tree geometry = session.tree geometry := by
            rw [turns.tree, outcome, Image.Operation.outcome, isFile]
          have images := turns.images
          rw [outcome, Image.Operation.outcome, isFile] at opened images
          obtain ⟨isHandle, rfl⟩ : handle = OpenFiles.lowestFree mounted.image.files.slots ∧
              after' = after := by
            change some (Except.mapError _ (Except.map _ (if _ then _ else _)), _) = _ at opened
            split at opened
            · cases opened
              exact ⟨rfl, rfl⟩
            · cases opened
          refine ⟨{ mounted with image.files := (mounted.image.files.insert file).2 }, file, ?_, ?_, ?_⟩
          · rw [images, List.getElem?_set_self inside]
          · rw [OpenFiles.get?_insert, if_pos isHandle]
          · rw [isTree]
            exact .of_opened represents.wellFormed isFile
  | @openImage session after name mounted index handle path log since opened same induction =>
      obtain ⟨mounted', file, isOpen, isFile, stems⟩ := induction
      have inside := (List.getElem?_eq_some_iff.mp isOpen).1
      refine ⟨mounted', file, ?_, isFile, ?_⟩
      · rw [List.getElem?_append_left inside, isOpen]
      · rw [tree_of_backing (since.reachable.inOrder.backing_of_openImage opened same _)]
        exact stems
  | @perform session after performer index handle path log operation answer since performed stays
      induction =>
      obtain ⟨mounted, file, isOpen, isFile, stems⟩ := induction
      obtain ⟨mounted', isOpen'⟩ := isSome_of_perform performed
      have order := since.reachable.inOrder
      have stems' := stems.ages (order.ages isOpen' performed)
      obtain ⟨after', performs, turns, -⟩ := order.perform isOpen' operation
      rw [performs] at performed
      cases performed
      by_cases same : performer = index
      · subst same
        cases isOpen.symm.trans isOpen'
        obtain ⟨offset, isFile'⟩ := Image.Operation.get?_outcome isFile (stays rfl)
        exact ⟨_, { file with offset }, turns.isOpen isOpen, isFile', stems'⟩
      · refine ⟨mounted, file, ?_, isFile, stems'⟩
        rw [turns.images, List.getElem?_set_ne same, isOpen]
  | @closeImage session closed index handle path log mounted since isOpen other induction =>
      obtain ⟨mounted', file, isOpen', isFile, stems⟩ := induction
      refine ⟨mounted', file, ?_, isFile, ?_⟩
      · rw [List.getElem?_eraseIdx]
        rcases Nat.lt_or_gt_of_ne other with before | behind
        · rw [if_pos before, if_neg (by omega), Nat.sub_add_cancel (by omega), isOpen']
        · rw [if_neg (Nat.lt_asymm behind), if_pos behind, isOpen']
      · rw [tree_of_backing (since.reachable.inOrder.backing_of_closeImage
          (List.mem_of_getElem? isOpen) _)]
        exact stems

/-- Every open handle was opened at some time. -/
theorem Reachable.exists_openSince (reachable : Reachable geometry session)
    (isOpen : session.images[index]? = some mounted)
    (isFile : mounted.image.files.get? handle = some file) (isHandle : handle < Limit.word32) :
    ∃ path log, OpenSince geometry session index handle path log := by
  induction reachable generalizing index mounted file with
  | init => cases isOpen
  | @openImage session after name opened reachable opens same induction =>
      rw [List.getElem?_append] at isOpen
      split at isOpen
      · obtain ⟨path, log, since⟩ := induction isOpen isFile
        exact ⟨path, log, since.openImage opens same⟩
      · obtain ⟨isNew, -⟩ := reachable.inOrder.of_openImage opens same
        have isMounted := List.mem_singleton.mp (List.mem_of_getElem? isOpen)
        rw [isMounted, isNew] at isFile
        cases isFile
  | @perform session after performer operation answer reachable performed induction =>
      obtain ⟨mounted', isOpen'⟩ := isSome_of_perform performed
      obtain ⟨after', performs, turns, -⟩ := reachable.inOrder.perform isOpen' operation
      have same : after' = after := by
        rw [performs] at performed
        cases performed
        rfl
      subst same
      rw [turns.images] at isOpen
      by_cases isPerformer : performer = index
      · subst isPerformer
        rw [List.getElem?_set_self (List.getElem?_eq_some_iff.mp isOpen').1] at isOpen
        cases isOpen
        rcases Image.Operation.of_get?_outcome isFile with ⟨wasOpen, stays⟩ | ⟨path, mode, rfl, opens⟩
        · obtain ⟨file', isFile'⟩ := Option.isSome_iff_exists.mp wasOpen
          obtain ⟨path, log, since⟩ := induction isOpen' isFile'
          exact ⟨path, _, since.perform performed fun _ => stays⟩
        · have answers : (session.outcome geometry mounted' (.openFile path mode)).1 =
              .ok (.handle handle) := opens isHandle
          rw [answers] at performs
          exact ⟨path, [], .openFile reachable performs⟩
      · rw [List.getElem?_set_ne isPerformer] at isOpen
        obtain ⟨path, log, since⟩ := induction isOpen isFile
        exact ⟨path, _, since.perform performed fun same => absurd same isPerformer⟩
  | @closeImage session closed closing reachable isClosed induction =>
      rw [List.getElem?_eraseIdx] at isOpen
      split at isOpen
      · next before =>
        obtain ⟨path, log, since⟩ := induction isOpen isFile
        have closes := since.closeImage isClosed (Nat.ne_of_gt before)
        rw [if_neg (Nat.lt_asymm before)] at closes
        exact ⟨path, log, closes⟩
      · next behind =>
        obtain ⟨path, log, since⟩ := induction isOpen isFile
        have closes := since.closeImage isClosed (by omega)
        rw [if_pos (by omega), Nat.add_sub_cancel] at closes
        exact ⟨path, log, closes⟩

/-! Operations on files that are gone -/

theorem outcome_gone (isFile : mounted.image.files.get handle = .ok file) {operation : Image.Operation}
    (accesses : operation.Accesses handle file)
    (gone : (session.tree geometry).contentOf file = none) :
    session.outcome geometry mounted operation =
      (.error (.noSuchFile file.name), mounted.image.files, session.tree geometry) := by
  rw [outcome]
  cases operation with
  | read other count =>
      cases accesses
      rw [Image.Operation.outcome, isFile]
      dsimp only
      rw [gone]
  | seek other origin delta =>
      cases accesses
      rw [Image.Operation.outcome, isFile]
      dsimp only
      rw [gone]
  | write other bytes =>
      obtain ⟨rfl, writable⟩ := accesses
      rw [Image.Operation.outcome, isFile]
      dsimp only
      rw [if_neg (by simp [writable]), Tree.write, gone]
  | truncate other length =>
      obtain ⟨rfl, writable⟩ := accesses
      rw [Image.Operation.outcome, isFile]
      dsimp only
      rw [if_neg (by simp [writable]), Tree.truncate, gone]
      rfl
  | _ => cases accesses

theorem outcome_ne_noSuchFile (isFile : mounted.image.files.get handle = .ok file)
    {operation : Image.Operation} (accesses : operation.Accesses handle file) {content : Bytes}
    (live : (session.tree geometry).contentOf file = some content) (name : String) :
    (session.outcome geometry mounted operation).1 ≠ .error (.noSuchFile name) := by
  cases operation with
  | read other count =>
      cases accesses
      rw [outcome_read isFile live]
      exact fun impossible => by cases impossible
  | seek other origin delta =>
      cases accesses
      rw [outcome_seek isFile live]
      exact fun impossible => by cases impossible
  | write other bytes =>
      obtain ⟨rfl, writable⟩ := accesses
      rw [outcome_write isFile writable bytes rfl, Tree.write, live]
      dsimp only
      split
      · exact fun impossible => by cases impossible
      · split <;> exact fun impossible => by cases impossible
  | truncate other length =>
      obtain ⟨rfl, writable⟩ := accesses
      rw [outcome_truncate isFile writable length rfl, Tree.truncate, live]
      dsimp only
      split <;> exact fun impossible => by cases impossible
  | _ => cases accesses

theorem outcome_denied (isFile : mounted.image.files.get handle = .ok file)
    {operation : Image.Operation} (through : operation.handle? = some handle)
    (stays : operation ≠ .closeFile handle) (denied : ¬ operation.Accesses handle file) :
    session.outcome geometry mounted operation =
      (.error .wrongMode, mounted.image.files, session.tree geometry) := by
  rw [outcome]
  cases operation with
  | closeFile other =>
      cases through
      exact absurd rfl stays
  | read other count =>
      cases through
      exact absurd rfl denied
  | seek other origin delta =>
      cases through
      exact absurd rfl denied
  | write other bytes =>
      cases through
      rw [Image.Operation.outcome, isFile]
      dsimp only
      rw [if_pos]
      simpa [Image.Operation.Accesses] using denied
  | truncate other length =>
      cases through
      rw [Image.Operation.outcome, isFile]
      dsimp only
      rw [if_pos]
      simpa [Image.Operation.Accesses] using denied
  | _ => cases through

/-- An operation that fails, other than by a lack of blocks, leaves the session as it was. -/
theorem InOrder.perform_failing (order : session.InOrder geometry)
    (isOpen : session.images[index]? = some mounted) {operation : Image.Operation} {error : FsError}
    (fails : session.outcome geometry mounted operation =
      (.error error, mounted.image.files, session.tree geometry)) (room : error ≠ .noFreeBlocks) :
    ∃ after, session.perform index operation = some (.error (.failed error), after) ∧
      after.backing = session.backing ∧ after.images = session.images := by
  obtain ⟨after, performs, turns, leaves⟩ := order.perform isOpen operation
  rw [fails] at performs turns leaves
  refine ⟨after, performs, ?_, ?_⟩
  · rcases leaves error rfl with same | ⟨isFull, -⟩
    · exact order.backing_eq_of_disk turns.inOrder same
    · exact absurd isFull room
  · obtain ⟨inside, rfl⟩ := List.getElem?_eq_some_iff.mp isOpen
    rw [turns.images]
    exact List.set_getElem_self inside

theorem InOrder.perform_closeFile (order : session.InOrder geometry)
    (isOpen : session.images[index]? = some mounted) (handle : Nat) :
    ∃ answer after, session.perform index (.closeFile handle) = some (answer, after) ∧
      after.backing = session.backing := by
  obtain ⟨answer, mounted', performs⟩ : ∃ answer mounted',
      session.host.perform mounted (.closeFile handle) =
        (answer, mounted', session.host.put session.path (.file session.backing)) := by
    obtain ⟨isPath, -⟩ := order.mounted mounted (List.mem_of_getElem? isOpen)
    rw [Host.perform, isPath, order.isFile]
    dsimp only [Image.perform, Image.Operation.action]
    rw [FileAction.bind_apply, FileAction.remove]
    cases mounted.image.files.remove handle <;> exact ⟨_, _, rfl⟩
  rw [Session.perform, isOpen]
  dsimp only
  rw [performs]
  exact ⟨_, _, rfl, backing_eq (Host.node?_put ..)⟩

/-! What a handle reaches -/

/-- The handle tells the file that it was opened for from all others, as long as the generations of the
slot tell them apart. -/
structure Distinguishes (geometry : Geometry) (session : Session) (index : Nat)
    (mounted : Host.Mounted) (handle : Nat) (path : String) (file : OpenFile) (log : List Emptying) :
    Prop where
  missing (operation : Image.Operation) (accesses : operation.Accesses handle file) :
    ∃ answer after, session.perform index operation = some (answer, after) ∧
      ∀ name, answer = .error (.failed (.noSuchFile name)) ↔ name = file.name ∧
        ((∀ content, (session.tree geometry file.inode).body ≠ .file content) ∨
          ¬ 256 ∣ emptyings file.inode log)
  kept (kept : ⟨file.inode, .removal⟩ ∉ log) :
    emptyings file.inode log = 0 ∧ ∃ names content, Path.components path = .ok names ∧
      (session.tree geometry).resolve names = some file.inode ∧
      session.tree geometry file.inode = {
        name := file.name
        generation := file.generation
        body := .file content }
  removed (removed : ⟨file.inode, .removal⟩ ∈ log) (few : emptyings file.inode log < 256)
    (operation : Image.Operation) (through : operation.handle? = some handle) :
    ∃ answer after, session.perform index operation = some (answer, after) ∧
      after.backing = session.backing ∧
      (operation ≠ .closeFile handle → after.images = session.images ∧
        (operation.Accesses handle file → answer = .error (.failed (.noSuchFile file.name))) ∧
        (¬ operation.Accesses handle file → answer = .error (.failed .wrongMode)))

/-- In every reachable state every open handle was opened at some time, and since then tells its file from
others: it finds no file if and only if the slot holds none or has not been emptied a multiple of 256
times, it stays with its file until this is removed, and then it reaches no other file for 255 times that
the slot is emptied. -/
theorem reachable_distinguishes (reachable : Reachable geometry session)
    (isOpen : session.images[index]? = some mounted)
    (isFile : mounted.image.files.get? handle = some file) (isHandle : handle < Limit.word32) :
    (∃ path log, OpenSince geometry session index handle path log) ∧
      ∀ path log, OpenSince geometry session index handle path log →
        Distinguishes geometry session index mounted handle path file log := by
  refine ⟨reachable.exists_openSince isOpen isFile isHandle, fun path log since => ?_⟩
  have order := reachable.inOrder
  have isFile' := OpenFiles.get_eq_ok.mpr isFile
  have stems : (session.tree geometry).Stems path file log := by
    obtain ⟨mounted', file', isOpen', isFile', stems⟩ := since.stems
    cases isOpen.symm.trans isOpen'
    cases isFile.symm.trans isFile'
    exact stems
  refine ⟨fun operation accesses => ?_, stems.of_kept, fun removed few operation through => ?_⟩
  · rw [← stems.contentOf_eq_none]
    cases live : (session.tree geometry).contentOf file with
    | none =>
        obtain ⟨after, performs, -⟩ :=
          order.perform_failing isOpen (outcome_gone isFile' accesses live) (by simp)
        refine ⟨_, after, performs, fun name => ⟨?_, ?_⟩⟩
        · rintro ⟨⟩
          exact ⟨rfl, rfl⟩
        · rintro ⟨rfl, -⟩
          rfl
    | some content =>
        obtain ⟨after, performs, -⟩ := order.perform isOpen operation
        refine ⟨_, after, performs, fun name => ⟨fun fails => ?_, fun gone => by simp at gone⟩⟩
        exact absurd (error_of_mapError fails) (outcome_ne_noSuchFile isFile' accesses live name)
  · have many : ¬ 256 ∣ emptyings file.inode log := by
      have some := emptyings_pos removed
      omega
    have gone := stems.contentOf_eq_none.mpr (.inr many)
    by_cases isClose : operation = .closeFile handle
    · subst isClose
      obtain ⟨answer, after, performs, same⟩ := order.perform_closeFile isOpen handle
      exact ⟨answer, after, performs, same, fun stays => absurd rfl stays⟩
    · by_cases accesses : operation.Accesses handle file
      · obtain ⟨after, performs, same, images⟩ :=
          order.perform_failing isOpen (outcome_gone isFile' accesses gone) (by simp)
        exact ⟨_, after, performs, same, fun _ => ⟨images, fun _ => rfl, absurd accesses⟩⟩
      · obtain ⟨after, performs, same, images⟩ :=
          order.perform_failing isOpen (outcome_denied isFile' through isClose accesses) (by simp)
        exact ⟨_, after, performs, same, fun _ =>
          ⟨images, fun impossible => absurd impossible accesses, fun _ => rfl⟩⟩

/-- A file that is removed while it is open. -/
theorem removed_file_distinguishes :
    let session := (new smallest).run [(0, .create "/a" .file), (0, .openFile "/a" .readWrite),
      (0, .remove "/a")]
    let file : OpenFile := ⟨2, 0, "a", 0, .readWrite⟩
    ∃ mounted, session.images[0]? = some mounted ∧ mounted.image.files.get? 0 = some file ∧
      OpenSince smallest session 0 0 "/a" [⟨2, .removal⟩] ∧
      Distinguishes smallest session 0 mounted 0 "/a" file [⟨2, .removal⟩] := by
  intro session file
  obtain ⟨owner, stands⟩ := @new_stands smallest [0, 1] (by decide) (by decide)
  let filled := Tree.fresh.enter 0 2 "a" .file
  have split : Path.splitLast "/a" = .ok ([], "a") := by decide +kernel
  have components : Path.components "/a" = .ok ["a"] := by decide +kernel
  obtain ⟨first, performs, stands⟩ :=
    @Stands.create _ _ _ _ _ stands _ .file _ _ _ _ _ split rfl rfl rfl (by decide) (by decide)
  have leads : Represents.resolved filled "/a" = .ok 2 := by
    rw [Represents.resolved, components]
    rfl
  obtain ⟨second, performs', stands'⟩ :=
    @Stands.openFile _ _ _ _ _ stands _ .readWrite _ _ leads rfl
      (show 0 < Limit.word32 by decide)
  have removed : (Image.Operation.remove "/a").outcome smallest (second.disk smallest) filled
      ⟨[some file]⟩ = (.ok .done, ⟨[some file]⟩, filled.leave 0 0 2) := by
    rw [Image.Operation.outcome, Tree.remove, split]
    rfl
  obtain ⟨third, performs'', stands''⟩ :=
    stands'.perform removed (stands'.confined.leave (by decide) 0 2)
  have empties : second.emptied smallest (.remove "/a") (.ok .done) = [⟨2, .removal⟩] := by
    have isTree : second.tree smallest = filled := stands'.isTree
    obtain ⟨inode, resolves⟩ := stands'.reachable.inOrder.resolve_apply (isTree ▸ leads)
    rw [emptied, resolves]
  have since : OpenSince smallest third 0 0 "/a" [⟨2, .removal⟩] := by
    have opens : OpenSince smallest second 0 0 "/a" [] := .openFile stands.reachable performs'
    have removes := opens.perform performs'' fun _ => by simp
    change OpenSince smallest third 0 0 "/a"
      ([] ++ second.emptied smallest (.remove "/a") (.ok .done)) at removes
    rwa [empties] at removes
  have isThird : session = third := by
    rw [show session = (new smallest).run _ from rfl, run_of_performs performs,
      run_of_performs performs', run_of_performs performs'']
    rfl
  rw [isThird]
  exact ⟨_, stands''.isOpen, rfl, since,
    (reachable_distinguishes since.reachable stands''.isOpen rfl (by decide)).2 "/a" _ since⟩

end Session

end ImageFs
