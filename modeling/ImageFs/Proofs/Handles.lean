import Mathlib.Data.List.Induction
import ImageFs.Proofs.Outcome

/-!
The open files after an operation. Main statements: they keep to the table and to the length of the
image, and an operation that fails leaves them as they were.
-/

namespace ImageFs

variable {geometry : Geometry} {files : OpenFiles}

namespace OpenFiles

theorem fit_empty (geometry : Geometry) : OpenFiles.empty.Fit geometry :=
  fun _ member => by cases member

theorem Fit.moved (fit : files.Fit geometry) {handle : Nat} {file : OpenFile}
    (isOpen : files.get handle = .ok file) {offset : Nat} (inside : offset ≤ geometry.imageLength) :
    (files.moved handle file offset).Fit geometry := by
  intro other member
  obtain ⟨taken, small, -⟩ := fit.of_get isOpen
  rcases List.mem_or_eq_of_mem_set member with member | same
  · exact fit other member
  · cases same
    exact ⟨taken, small, inside⟩

theorem Fit.insert (fit : files.Fit geometry) {file : OpenFile}
    (taken : InodeNumber.firstFree ≤ file.inode) (small : file.inode < geometry.inodeCount)
    (inside : file.offset ≤ geometry.imageLength) : (files.insert file).2.Fit geometry := by
  intro other member
  have isPlaced : some other ∈ files.slots ∨ some other = some file := by
    change some other ∈ place files.slots _ file at member
    rw [place] at member
    split at member
    · exact List.mem_or_eq_of_mem_set member
    · rcases List.mem_append.mp member with member | member
      · exact .inl member
      · exact .inr (List.mem_singleton.mp member)
  rcases isPlaced with member | same
  · exact fit other member
  · cases same
    exact ⟨taken, small, inside⟩

theorem Fit.remove (fit : files.Fit geometry) {handle : Nat} {file : OpenFile} {files' : OpenFiles}
    (removed : files.remove handle = .ok (file, files')) : files'.Fit geometry := by
  rw [OpenFiles.remove] at removed
  split at removed
  · cases removed
    intro other member
    have inSet := (List.dropWhile_suffix _).subset (List.mem_reverse.mp member)
    rcases List.mem_or_eq_of_mem_set (List.mem_reverse.mp inSet) with member | impossible
    · exact fit other member
    · cases impossible
  · cases removed

/-- The slots below the lowest free one hold files. -/
theorem lowestFree_le_count (files : OpenFiles) : lowestFree files.slots ≤ files.count := by
  rw [lowestFree, count]
  generalize files.slots = slots
  induction slots with
  | nil => exact Nat.le_refl _
  | cons slot rest induction =>
      cases slot with
      | none => exact Nat.zero_le _
      | some file =>
          rw [List.findIdx_cons, List.countP_cons_of_pos rfl]
          exact Nat.succ_le_succ induction

theorem insert_answer (few : files.count < Limit.word32) (file : OpenFile) :
    (files.insert file).1 = .ok (lowestFree files.slots) :=
  if_pos (Nat.lt_of_le_of_lt files.lowestFree_le_count few)

/-- There is a handle for one more file as long as not all are in use. -/
theorem insert_ok (few : files.count < Limit.word32) (file : OpenFile) :
    ∃ handle, (files.insert file).1 = .ok handle :=
  ⟨_, insert_answer few file⟩

/-! Handles after a change -/

theorem lowestFree_le (slots : List (Option OpenFile)) : lowestFree slots ≤ slots.length :=
  List.findIdx_le_length

theorem get?_moved {handle : Nat} {file : OpenFile} (isOpen : files.get handle = .ok file)
    (offset other : Nat) : (files.moved handle file offset).get? other =
      if other = handle then some { file with offset } else files.get? other := by
  have inside : handle < files.slots.length :=
    (List.getElem?_eq_some_iff.mp (get?_eq_some.mp (get_eq_ok.mp isOpen))).1
  rw [get?, moved, List.getElem?_set]
  by_cases same : handle = other
  · subst same
    rw [if_pos rfl, if_pos inside, if_pos rfl]
    rfl
  · rw [if_neg same, if_neg (Ne.symm same), get?]

theorem getElem?_place {slots : List (Option OpenFile)} {index : Nat} (inside : index ≤ slots.length)
    (file : OpenFile) (other : Nat) :
    (place slots index file)[other]? = if other = index then some (some file) else slots[other]? := by
  rw [place]
  split
  · next less =>
    rw [List.getElem?_set]
    by_cases same : index = other
    · subst same
      rw [if_pos rfl, if_pos less, if_pos rfl]
    · rw [if_neg same, if_neg (Ne.symm same)]
  · next notLess =>
    have atEnd : index = slots.length := Nat.le_antisymm inside (Nat.not_lt.mp notLess)
    subst atEnd
    rcases Nat.lt_trichotomy other slots.length with less | rfl | greater
    · rw [List.getElem?_append_left less, if_neg (Nat.ne_of_lt less)]
    · rw [List.getElem?_concat_length, if_pos rfl]
    · rw [if_neg (Nat.ne_of_gt greater), List.getElem?_eq_none (Nat.le_of_lt greater),
        List.getElem?_eq_none (by rw [List.length_append]; exact greater)]

theorem get?_insert (file : OpenFile) (handle : Nat) : (files.insert file).2.get? handle =
    if handle = lowestFree files.slots then some file else files.get? handle := by
  change ((place files.slots (lowestFree files.slots) file)[handle]?).join = _
  rw [getElem?_place (lowestFree_le _)]
  split
  · rfl
  · rfl

/-- The lowest free slot holds no file. -/
theorem get?_lowestFree (files : OpenFiles) : files.get? (lowestFree files.slots) = none := by
  rw [get?]
  cases found : files.slots[lowestFree files.slots]? with
  | none => rfl
  | some slot =>
      obtain ⟨inside, isSlot⟩ := List.getElem?_eq_some_iff.mp found
      have free : Option.isNone files.slots[lowestFree files.slots] = true := List.findIdx_getElem
      rw [isSlot] at free
      rw [Option.isNone_iff_eq_none.mp free]
      rfl

theorem join_dropTrailing (slots : List (Option OpenFile)) (index : Nat) :
    ((dropTrailing slots)[index]?).join = (slots[index]?).join := by
  induction slots using List.reverseRecOn with
  | nil => rfl
  | append_singleton front last induction =>
      rw [dropTrailing, List.reverse_append, List.reverse_singleton, List.singleton_append]
      cases last with
      | some file =>
        rw [List.dropWhile_cons_of_neg (by simp), List.reverse_cons, List.reverse_reverse]
      | none =>
        rw [List.dropWhile_cons_of_pos rfl]
        refine induction.trans ?_
        rcases Nat.lt_trichotomy index front.length with less | rfl | greater
        · rw [List.getElem?_append_left less]
        · rw [List.getElem?_concat_length, List.getElem?_eq_none (Nat.le_refl _)]
          rfl
        · rw [List.getElem?_eq_none (Nat.le_of_lt greater),
            List.getElem?_eq_none (by rw [List.length_append]; exact greater)]

theorem get?_remove {handle : Nat} {file : OpenFile} {files' : OpenFiles}
    (removed : files.remove handle = .ok (file, files')) (other : Nat) :
    files'.get? other = if other = handle then none else files.get? other := by
  rw [remove] at removed
  cases isOpen : files.get? handle with
  | none =>
      rw [isOpen] at removed
      cases removed
  | some file' =>
      rw [isOpen] at removed
      cases removed
      have inside : handle < files.slots.length :=
        (List.getElem?_eq_some_iff.mp (get?_eq_some.mp isOpen)).1
      rw [get?, join_dropTrailing, List.getElem?_set]
      by_cases same : handle = other
      · subst same
        rw [if_pos rfl, if_pos inside, if_pos rfl]
        rfl
      · rw [if_neg same, if_neg (Ne.symm same), get?]

end OpenFiles

namespace Image.Operation

variable {disk : Disk} {tree : Tree}

/-- An operation that fails leaves the open files as they were. -/
theorem files_of_error (few : files.count < Limit.word32) (operation : Image.Operation)
    {error : FsError} (fails : (operation.outcome geometry disk tree files).1 = .error error) :
    (operation.outcome geometry disk tree files).2.1 = files := by
  cases operation with
  | create path kind => rfl
  | remove path => rfl
  | openFile path mode =>
      rw [outcome] at fails ⊢
      cases opened : tree.opened path mode with
      | error error => rfl
      | ok file =>
          obtain ⟨handle, inserted⟩ := OpenFiles.insert_ok few file
          rw [opened] at fails
          dsimp only at fails
          rw [inserted] at fails
          cases fails
  | closeFile handle =>
      rw [outcome] at fails ⊢
      cases removed : files.remove handle with
      | error error => rfl
      | ok found =>
          rw [removed] at fails
          cases fails
  | read handle count =>
      rw [outcome] at fails ⊢
      cases isOpen : files.get handle with
      | error error => rfl
      | ok file =>
          rw [isOpen] at fails
          dsimp only at fails ⊢
          cases live : tree.contentOf file with
          | none => rfl
          | some content =>
              rw [live] at fails
              cases fails
  | write handle bytes =>
      rw [outcome] at fails ⊢
      cases isOpen : files.get handle with
      | error error => rfl
      | ok file =>
          rw [isOpen] at fails
          dsimp only at fails ⊢
          split
          · rfl
          · next allowed =>
            rw [if_neg allowed] at fails
            cases result : tree.write geometry (disk.counter .freeBlocks) file bytes with
            | mk answer tree' =>
                rw [result] at fails
                cases answer with
                | error error => rfl
                | ok stop => cases fails
  | seek handle origin delta =>
      rw [outcome] at fails ⊢
      cases isOpen : files.get handle with
      | error error => rfl
      | ok file =>
          rw [isOpen] at fails
          dsimp only at fails ⊢
          cases live : tree.contentOf file with
          | none => rfl
          | some content =>
              rw [live] at fails
              cases fails
  | truncate handle length =>
      rw [outcome]
      cases isOpen : files.get handle with
      | error error => rfl
      | ok file =>
          dsimp only
          split <;> rfl
  | stat path => rfl
  | readDirectory path => rfl
  | usage => rfl
  | check => rfl

end Image.Operation

namespace Represents

variable {disk after : Disk} {tree : Tree} {chain chain' : Nat → List Nat} {volume : Volume}

theorem opened_inside (represents : Represents volume.geometry disk tree chain) {path : String}
    {mode : AccessMode} {file : OpenFile} (opened : tree.opened path mode = .ok file) :
    InodeNumber.firstFree ≤ file.inode ∧ file.inode < volume.geometry.inodeCount ∧
      file.offset = 0 := by
  rw [Tree.opened] at opened
  cases resolved : resolved tree path with
  | error error =>
      rw [resolved] at opened
      cases opened
  | ok node =>
      rw [resolved] at opened
      dsimp only at opened
      obtain ⟨live, notAnchor⟩ := represents.wellFormed.resolved_live resolved
      obtain ⟨children, rootBody⟩ := represents.wellFormed.rootBody
      cases body : (tree node).body with
      | directory children =>
          rw [body] at opened
          cases opened
      | vacant => exact absurd body live
      | file content =>
          rw [body] at opened
          cases opened
          have notRoot : node ≠ InodeNumber.root := by
            rintro rfl
            rw [rootBody] at body
            cases body
          have first : InodeNumber.firstFree = 2 := rfl
          have root : InodeNumber.root = 0 := rfl
          have anchor : InodeNumber.anchor = 1 := rfl
          exact ⟨show InodeNumber.firstFree ≤ node by omega,
            represents.wellFormed.lt_of_isLive live, rfl⟩

theorem length_contentOf (represents : Represents volume.geometry disk tree chain) {file : OpenFile}
    {content : Bytes} (live : tree.contentOf file = some content) :
    content.length ≤ volume.geometry.imageLength := by
  obtain ⟨body, -⟩ := Tree.contentOf_eq_some.mp live
  have bound := represents.stored.stored_lt file.inode
  rw [stored_of_file body] at bound
  exact Nat.le_of_lt bound

theorem stop_le (represents : Represents volume.geometry disk tree chain) {file : OpenFile}
    (inside : file.offset ≤ volume.geometry.imageLength) {free stop : Nat} {bytes : Bytes}
    {tree' : Tree} (writes : tree.write volume.geometry free file bytes = (.ok stop, tree'))
    (represents' : Represents volume.geometry after tree' chain') :
    stop ≤ volume.geometry.imageLength := by
  rw [Tree.write] at writes
  cases live : tree.contentOf file with
  | none =>
      rw [live] at writes
      cases writes
  | some content =>
      have bound := represents.length_contentOf live
      rw [live] at writes
      dsimp only at writes
      split at writes
      · cases writes
      · split at writes
        · cases writes
        · cases writes
          by_cases none : bytes = []
          · subst none
            rw [Tree.writeOffset]
            split <;> assumption
          · have length := represents'.stored.stored_lt file.inode
            have body : (tree.setContent file.inode (content.written
                (Tree.writeOffset file content) bytes) file.inode).body =
                  .file (content.written (Tree.writeOffset file content) bytes) := by
              rw [Tree.setContent, Function.update_self]
            rw [stored_of_file body, Bytes.length_written none] at length
            omega

/-- No operation moves an offset behind the image. -/
theorem fit_outcome (represents : Represents volume.geometry disk tree chain)
    (fit : files.Fit volume.geometry) (operation : Image.Operation)
    (represents' : Represents volume.geometry after
      (operation.outcome volume.geometry disk tree files).2.2 chain') :
    (operation.outcome volume.geometry disk tree files).2.1.Fit volume.geometry := by
  cases operation with
  | create path kind => exact fit
  | remove path => exact fit
  | openFile path mode =>
      rw [Image.Operation.outcome]
      cases opened : tree.opened path mode with
      | error error => exact fit
      | ok file =>
          obtain ⟨free, inside, offset⟩ := represents.opened_inside opened
          exact fit.insert free inside (offset ▸ Nat.zero_le _)
  | closeFile handle =>
      rw [Image.Operation.outcome]
      cases removed : files.remove handle with
      | error error => exact fit
      | ok found => exact fit.remove removed
  | read handle count =>
      rw [Image.Operation.outcome]
      cases isOpen : files.get handle with
      | error error => exact fit
      | ok file =>
          dsimp only
          cases live : tree.contentOf file with
          | none => exact fit
          | some content =>
              have bound := represents.length_contentOf live
              have offset := (fit.of_get isOpen).2.2
              refine fit.moved isOpen ?_
              rw [List.length_take, List.length_drop]
              omega
  | write handle bytes =>
      rw [Image.Operation.outcome] at represents' ⊢
      cases isOpen : files.get handle with
      | error error => exact fit
      | ok file =>
          rw [isOpen] at represents'
          dsimp only at represents' ⊢
          split
          · exact fit
          · next allowed =>
            rw [if_neg allowed] at represents'
            cases result : tree.write volume.geometry (disk.counter .freeBlocks) file bytes with
            | mk answer tree' =>
                rw [result] at represents'
                cases answer with
                | error error => exact fit
                | ok stop =>
                    have offset := (fit.of_get isOpen).2.2
                    exact fit.moved isOpen (represents.stop_le offset result represents')
  | seek handle origin delta =>
      rw [Image.Operation.outcome]
      cases isOpen : files.get handle with
      | error error => exact fit
      | ok file =>
          dsimp only
          cases live : tree.contentOf file with
          | none => exact fit
          | some content =>
              have bound := represents.length_contentOf live
              refine fit.moved isOpen (Nat.le_trans ?_ bound)
              exact Nat.min_le_right _ _
  | truncate handle length =>
      rw [Image.Operation.outcome]
      cases isOpen : files.get handle with
      | error error => exact fit
      | ok file =>
          dsimp only
          split <;> exact fit
  | stat path => exact fit
  | readDirectory path => exact fit
  | usage => exact fit
  | check => exact fit

end Represents

end ImageFs
