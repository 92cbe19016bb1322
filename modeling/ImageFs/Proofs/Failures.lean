import ImageFs.Proofs.PathGrammar
import ImageFs.Proofs.Session

/-!
Failures. Main statement: in every reachable state an operation that fails leaves the file byte for byte
and the open files as they were, but for the generation of the slot that a new node could not keep.
-/

namespace ImageFs

/-! The generation in a record -/

def generationOffset : Nat := 239

namespace Inode

variable {inode : Inode}

theorem exists_record (fits : NameFits inode.name) : ∃ front rest,
    front.length = generationOffset ∧
      ∀ generation, ({ inode with generation } : Inode).record = front ++ generation :: rest := by
  refine ⟨Field.padded nameWidth (Text.bytesOf inode.name) ++ [inode.kind.toByte],
    Bytes.ofUInt64 inode.size ++ Bytes.ofUInt64 inode.firstBlock, ?_, fun generation => ?_⟩
  · rw [List.length_append, Field.length_padded fits (by decide)]
    rfl
  · rw [record]
    simp only [List.append_assoc, List.cons_append, List.nil_append]

theorem record_generation (fits : NameFits inode.name) (generation : UInt8) :
    ({ inode with generation } : Inode).record =
      inode.record.overlay generationOffset [generation] := by
  obtain ⟨front, rest, length, split⟩ := exists_record fits
  have isRecord : inode.record = front ++ inode.generation :: rest := split inode.generation
  rw [split, isRecord, Bytes.overlay, ← length, List.take_left, List.length_singleton,
    List.drop_append, List.drop_eq_nil_of_le (Nat.le_succ _), Nat.add_sub_cancel_left]
  simp

theorem getElem?_record (fits : NameFits inode.name) :
    inode.record[generationOffset]? = some inode.generation := by
  obtain ⟨front, rest, length, split⟩ := exists_record fits
  have isRecord : inode.record = front ++ inode.generation :: rest := split inode.generation
  rw [isRecord, ← length, List.getElem?_append_right (Nat.le_refl _), Nat.sub_self]
  rfl

end Inode

/-- Making a node runs out of blocks only when it has a slot already. -/
theorem Tree.create_noFreeBlocks {tree : Tree} {geometry : Geometry} {free : Nat} {path : String}
    {kind : FileKind} (full : (tree.create geometry free path kind).1 = .error .noFreeBlocks) :
    ∃ slot, tree.vacancy geometry.inodeCount = some slot ∧
      (tree.create geometry free path kind).2 = tree.vacate slot := by
  rw [create] at full ⊢
  cases split : Path.splitLast path with
  | error error =>
      rw [split] at full
      cases full
      exact absurd (Path.splitLast_error split) (by simp)
  | ok found =>
      obtain ⟨parents, name⟩ := found
      rw [split] at full
      dsimp only at full ⊢
      cases found : tree.directory? parents with
      | none =>
          rw [found] at full
          cases kind <;> cases full
      | some found' =>
          obtain ⟨parent, children⟩ := found'
          rw [found] at full
          dsimp only at full ⊢
          split at full
          · cases full
          · next fresh =>
            rw [if_neg fresh]
            cases vacancy : tree.vacancy geometry.inodeCount with
            | none =>
                rw [vacancy] at full
                cases full
            | some slot =>
                rw [vacancy] at full
                dsimp only at full ⊢
                split at full
                · next noRoom => exact ⟨slot, rfl, by rw [if_pos noRoom]⟩
                · cases full

namespace Session

variable {geometry : Geometry} {session after : Session} {index : Nat} {mounted : Host.Mounted}

def generationPosition (geometry : Geometry) (slot : Nat) : Nat :=
  geometry.firstInodeBlock * geometry.blockSize + slot * recordLength + generationOffset

theorem InOrder.backing_eq_of_disk (order : session.InOrder geometry) (order' : after.InOrder geometry)
    (same : after.disk geometry = session.disk geometry) : after.backing = session.backing := by
  have content : after.backing.content = session.backing.content :=
    Disk.content_eq (order'.size.trans order.size.symm)
      (order'.rest.holders.trans order.rest.holders.symm) same
  have locks : after.backing.locks = session.backing.locks :=
    order'.rest.locks.trans order.rest.locks.symm
  cases isAfter : after.backing
  cases isBefore : session.backing
  rw [isAfter, isBefore] at content locks
  cases content
  cases locks
  rfl

/-- One byte makes a vacant slot older. -/
theorem InOrder.disk_of_older (order : session.InOrder geometry) {slot : Nat}
    (vacancy : (session.tree geometry).vacancy geometry.inodeCount = some slot) :
    let older := session.backing.content.write (generationPosition geometry slot)
      [session.backing.content.byte (generationPosition geometry slot) + 1]
    older.size = session.backing.content.size ∧
      older.holders geometry = session.backing.content.holders geometry ∧
      Disk.of geometry older =
        (session.disk geometry).retired (session.tree geometry) slot := by
  intro older
  obtain ⟨chain, represents⟩ := order.represents
  obtain ⟨-, inside, vacant, -⟩ := Tree.vacancy_eq_some.mp vacancy
  obtain ⟨isVacant, empty⟩ := @Represents.stored_of_vacant (geometry.volume 0) _ _ _ represents _ vacant
  let generation := (session.tree geometry slot).generation
  have fits : NameFits "" := ⟨by decide, by decide⟩
  have isRecord : (session.disk geometry).record slot = ((Node.vacant generation).inode []).record := by
    rw [represents.stored.record slot inside,
      @Stored.chain_eq_nil (geometry.volume 0) _ _ _ represents.stored _ empty, isVacant]
  have isByte : session.backing.content.byte (generationPosition geometry slot) = generation := by
    have bytes : session.backing.content.read (Area.first geometry (.record slot)) recordLength =
        ((Node.vacant generation).inode []).record := by
      rw [← isRecord]
      exact (if_pos inside).symm
    have byte := @Inode.getElem?_record ((Node.vacant generation).inode []) fits
    rw [← bytes, Content.getElem?_read, if_pos (by decide)] at byte
    exact Option.some.inj byte
  have isOlder : ((session.disk geometry).record slot).overlay generationOffset [generation + 1] =
      ((Node.vacant (generation + 1)).inode []).record := by
    rw [isRecord]
    exact (@Inode.record_generation ((Node.vacant generation).inode []) fits _).symm
  have within : generationOffset + [generation + 1].length ≤ recordLength := Nat.le_of_ble_eq_true rfl
  have shows : Disk.of geometry (session.backing.content.write (generationPosition geometry slot)
      [generation + 1]) = (session.disk geometry).retired (session.tree geometry) slot := by
    refine (Disk.of_write_in_record session.backing.content inside within).trans ?_
    exact congrArg (fun record => { session.disk geometry with
      record := Function.update (session.disk geometry).record slot record }) isOlder
  have stop : generationPosition geometry slot + [generation + 1].length ≤
      Area.first geometry (.record slot) + Area.length geometry (.record slot) :=
    Nat.add_le_add_left within _
  have inImage : generationPosition geometry slot + [generation + 1].length ≤
      session.backing.content.size := by
    rw [order.size]
    exact Nat.le_trans stop (Area.stop_le_imageLength (.record slot) inside)
  have agree := Disk.agreeBut_write (.record slot) inside session.backing.content
    (Nat.le_add_right _ generationOffset) stop
  simp only [older, isByte]
  exact ⟨Content.size_write_of_fits _ inImage, agree.holders (by simp), shows⟩

/-- A slot that has become older differs in one byte. -/
theorem InOrder.content_of_retired (order : session.InOrder geometry) (order' : after.InOrder geometry)
    {slot : Nat} (vacancy : (session.tree geometry).vacancy geometry.inodeCount = some slot)
    (retired : after.disk geometry = (session.disk geometry).retired (session.tree geometry) slot) :
    after.backing.content = session.backing.content.write (generationPosition geometry slot)
      [session.backing.content.byte (generationPosition geometry slot) + 1] := by
  obtain ⟨size, holders, shows⟩ := order.disk_of_older vacancy
  -- a file is determined by the disk that it shows, so one byte makes up the whole difference
  refine Disk.content_eq ?_ ?_ (retired.trans shows.symm)
  · rw [size, order.size, order'.size]
  · exact (order'.rest.holders.trans order.rest.holders.symm).trans holders.symm

/-- In every reachable state in which a handle is to be had, an operation that fails leaves all bytes of
the file and all open files as they were. Only a new node that could not be entered in its directory
leaves the lowest vacant slot, which it had taken, one generation older. -/
theorem reachable_failure (reachable : Reachable geometry session)
    (isOpen : session.images[index]? = some mounted)
    (few : mounted.image.files.count < Limit.word32) {operation : Image.Operation} {error : FsError}
    (fails : session.perform index operation = some (.error (.failed error), after)) :
    after.images = session.images ∧
    ((∀ path kind, operation = .create path kind → error ≠ .noFreeBlocks) →
      after.backing.content = session.backing.content) ∧
    ∀ path kind, operation = .create path kind → error = .noFreeBlocks →
      ∃ slot, (session.tree geometry).vacancy geometry.inodeCount = some slot ∧
        after.backing.content = session.backing.content.write (generationPosition geometry slot)
          [session.backing.content.byte (generationPosition geometry slot) + 1] := by
  have order := reachable.inOrder
  obtain ⟨after', performs, turns, leaves⟩ := order.perform isOpen operation
  rw [performs] at fails
  obtain ⟨isFailure, rfl⟩ := Prod.mk.inj (Option.some.inj fails)
  have isError : (session.outcome geometry mounted operation).1 = .error error := by
    cases answer : (session.outcome geometry mounted operation).1 with
    | error other =>
        rw [answer] at isFailure
        cases isFailure
        rfl
    | ok value =>
        rw [answer] at isFailure
        cases isFailure
  have files := Image.Operation.files_of_error few operation isError
  have images : after'.images = session.images := by
    obtain ⟨inside, rfl⟩ := List.getElem?_eq_some_iff.mp isOpen
    rw [turns.images, outcome, files]
    exact List.set_getElem_self inside
  refine ⟨images, fun other => ?_, fun path kind isCreate isFull => ?_⟩
  · rcases leaves error isError with same | ⟨isFull, path, kind, -, isCreate, -⟩
    · rw [order.backing_eq_of_disk turns.inOrder same]
    · exact absurd isFull (other path kind isCreate)
  · subst isCreate isFull
    rcases leaves _ isError with same | ⟨-, _, _, slot, -, vacancy, retired⟩
    · obtain ⟨slot, vacancy, vacated⟩ := Tree.create_noFreeBlocks (error_of_map isError)
      have sameTree : (session.tree geometry).vacate slot = session.tree geometry := by
        rw [← vacated]
        refine turns.tree.symm.trans ?_
        rw [Session.tree, Session.tree, order.backing_eq_of_disk turns.inOrder same]
      have sameGeneration := congrArg Node.generation (congrFun sameTree slot)
      rw [Tree.vacate, Function.update_self] at sameGeneration
      exact absurd sameGeneration (by simp [Node.vacant])
    · exact ⟨slot, vacancy, order.content_of_retired turns.inOrder vacancy retired⟩

/-- Sizes without a block that can be handed out. -/
def full : Geometry :=
  { smallest with blocks := 1, blocks_pos := by decide, addressable := by decide }

/-- The first file does not find room for its entry there, and one byte tells of it. -/
theorem full_image_failure :
    ∃ after, (new full).perform 0 (.create "/a" .file) =
        some (.error (.failed .noFreeBlocks), after) ∧
      after.images = (new full).images ∧
      ∃ slot, ((new full).tree full).vacancy full.inodeCount = some slot ∧
        after.backing.content = (new full).backing.content.write (generationPosition full slot)
          [(new full).backing.content.byte (generationPosition full slot) + 1] := by
  obtain ⟨reachable, ⟨owner, images⟩, isDisk, isTree⟩ := @new_reachable full (by decide)
  have isOpen : (new full).images[0]? = some ⟨⟨["image"]⟩, full.volume owner, .empty⟩ := by
    rw [images]
    rfl
  have split : Path.splitLast "/a" = .ok ([], "a") := by decide +kernel
  have creates : (new full).outcome full ⟨⟨["image"]⟩, full.volume owner, .empty⟩
      (.create "/a" .file) = (.error .noFreeBlocks, .empty, Tree.fresh.vacate 2) := by
    rw [outcome, isDisk, isTree, Image.Operation.outcome, Tree.create, split]
    rfl
  obtain ⟨after, performs, -⟩ := reachable.inOrder.yields isOpen creates
  obtain ⟨sameImages, -, older⟩ := reachable_failure reachable isOpen
    (show OpenFiles.empty.count < Limit.word32 by decide) performs
  exact ⟨after, performs, sameImages, older "/a" .file rfl rfl⟩

end Session

end ImageFs
