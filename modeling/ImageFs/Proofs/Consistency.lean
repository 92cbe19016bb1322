import ImageFs.Proofs.Session

/-!
Consistency. Main statement: in every state that can be reached from a new image each operation ends,
the check finds nothing wrong, and the cursor of the free blocks keeps to the data area.
-/

namespace ImageFs.Session

variable {geometry : Geometry} {session : Session}

theorem InOrder.blockCursor (order : session.InOrder geometry) :
    if geometry.blocks = 1 then session.word Superblock.nextFreeBlockOffset = 0
    else 1 ≤ session.word Superblock.nextFreeBlockOffset ∧
      session.word Superblock.nextFreeBlockOffset < geometry.blocks := by
  obtain ⟨chain, represents⟩ := order.represents
  have cursor := represents.stored.ledger.cursor
  change (geometry.blocks = 1 ∧ session.word Superblock.nextFreeBlockOffset = 0) ∨
    (1 ≤ session.word Superblock.nextFreeBlockOffset ∧
      session.word Superblock.nextFreeBlockOffset < geometry.blocks) at cursor
  split <;> omega

theorem InOrder.check_clean (order : session.InOrder geometry) {index : Nat}
    {mounted : Host.Mounted} (isOpen : session.images[index]? = some mounted) :
    ∃ report after, session.perform index .check = some (.ok (.report report), after) ∧
      report.findings = [] ∧ report.freeBlocks + report.allocatedBlocks = geometry.blocks := by
  obtain ⟨chain, represents⟩ := order.represents
  obtain ⟨after, performs, -, -⟩ := order.perform isOpen .check
  have free := (@Represents.counter_lt (geometry.volume 0) _ _ _ represents).1
  refine ⟨_, after, performs, rfl, ?_⟩
  exact Nat.add_sub_of_le (Nat.le_of_lt free)

/-- Whatever has been done to an image since it was made, by however many openings of it: every
operation ends with an answer or an error, the check reports no finding and as many blocks as there
are, and the stored cursor is the number of a block that can be handed out, if there is one. -/
theorem reachable_consistent (reachable : Reachable geometry session) :
    (if geometry.blocks = 1 then session.word Superblock.nextFreeBlockOffset = 0
      else 1 ≤ session.word Superblock.nextFreeBlockOffset ∧
        session.word Superblock.nextFreeBlockOffset < geometry.blocks) ∧
    ∀ index mounted, session.images[index]? = some mounted →
      (∀ operation, ∃ (answer : Except FsError Image.Answer) (after : Session),
        session.perform index operation = some (answer.mapError .failed, after)) ∧
      ∃ report after, session.perform index .check = some (.ok (.report report), after) ∧
        report.findings = [] ∧
        report.freeBlocks + report.allocatedBlocks = geometry.blocks := by
  have order := reachable.inOrder
  refine ⟨order.blockCursor, fun index mounted isOpen => ⟨fun operation => ?_, ?_⟩⟩
  · obtain ⟨after, performs, -, -⟩ := order.perform isOpen operation
    exact ⟨_, after, performs⟩
  · exact order.check_clean isOpen

/-- Also after a file has been made, written and removed while it was open. -/
theorem small_image_consistent :
    let session := (new smallest).run [(0, .create "/a" .file), (0, .openFile "/a" .append),
      (0, .write 0 [1, 2, 3]), (0, .remove "/a")]
    (1 ≤ session.word Superblock.nextFreeBlockOffset ∧
        session.word Superblock.nextFreeBlockOffset < 2) ∧
      ∃ report after, session.perform 0 .check = some (.ok (.report report), after) ∧
        report.findings = [] ∧ report.freeBlocks + report.allocatedBlocks = 2 := by
  obtain ⟨reachable, mounted, isOpen⟩ := smallest_reachable [(0, .create "/a" .file),
    (0, .openFile "/a" .append), (0, .write 0 [1, 2, 3]), (0, .remove "/a")]
  obtain ⟨cursor, consistent⟩ := reachable_consistent reachable
  exact ⟨cursor, (consistent 0 mounted isOpen).2⟩

end ImageFs.Session
