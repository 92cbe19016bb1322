import ImageFs.Proofs.Failures
import ImageFs.Proofs.FileContents
import ImageFs.Proofs.Namespace

/-!
The slots that operations empty: that of a node which is removed, and that of a new node which could not
be entered in its directory. Main statement: the generation of a slot counts how often it has been
emptied, and until a file is removed it stays in its slot and under its path.
-/

namespace ImageFs

/-! Emptied slots -/

inductive Cause where
  | removal
  | rollback
deriving DecidableEq, Repr

structure Emptying where
  slot : Nat
  cause : Cause
deriving DecidableEq, Repr

/-- How often a slot has been emptied. -/
def emptyings (slot : Nat) (log : List Emptying) : Nat :=
  log.countP (·.slot = slot)

theorem emptyings_append (slot : Nat) (log log' : List Emptying) :
    emptyings slot (log ++ log') = emptyings slot log + emptyings slot log' :=
  List.countP_append

theorem emptyings_self (slot : Nat) (cause : Cause) : emptyings slot [⟨slot, cause⟩] = 1 := by
  simp [emptyings]

theorem emptyings_of_ne {slot other : Nat} (different : other ≠ slot) (cause : Cause) :
    emptyings slot [⟨other, cause⟩] = 0 := by
  simp [emptyings, different]

theorem emptyings_pos {slot : Nat} {cause : Cause} {log : List Emptying}
    (member : ⟨slot, cause⟩ ∈ log) : 0 < emptyings slot log :=
  List.countP_pos_iff.mpr ⟨_, member, by simp⟩

namespace Tree

variable {tree tree' : Tree} {slots slot : Nat}

/-! Following names through a change -/

/-- Names lead where they led if all children but some without children of their own are still found. -/
theorem follow_of_child? (gone : Nat → Prop) (leaf : ∀ node, gone node → (tree node).children = [])
    (keeps : ∀ node name child, tree.child? node name = some child → ¬ gone child →
      tree'.child? node name = some child)
    {names : List String} {node : Nat} (leads : tree.follow node names = some slot)
    (stays : ¬ gone slot) : tree'.follow node names = some slot := by
  induction names generalizing node with
  | nil => exact leads
  | cons name rest induction =>
      rw [follow] at leads ⊢
      cases isChild : tree.child? node name with
      | none =>
          rw [isChild] at leads
          cases leads
      | some child =>
          rw [isChild] at leads
          dsimp only at leads
          have stays' : ¬ gone child := by
            intro isGone
            cases rest with
            | nil =>
                cases leads
                exact stays isGone
            | cons next rest =>
                rw [follow, child?, leaf child isGone] at leads
                cases leads
          rw [keeps node name child isChild stays']
          exact induction leads

theorem WellFormed.child?_of_children (wellFormed : tree'.WellFormed slots) {directory child : Nat}
    {name : String} (isChild : tree.child? directory name = some child)
    (keeps : ∀ entry ∈ (tree directory).children, entry.inode = child →
      entry ∈ (tree' directory).children) : tree'.child? directory name = some child := by
  obtain ⟨entry, member, rfl, rfl⟩ := Represents.child_of_child? isChild
  exact wellFormed.child?_of_mem (keeps entry member rfl)

theorem WellFormed.resolve_live (wellFormed : tree.WellFormed slots) {names : List String} {node : Nat}
    (leads : tree.resolve names = some node) : (tree node).IsLive := by
  obtain ⟨children, body⟩ := wellFormed.rootBody
  exact (wellFormed.follow_live (Node.isLive_of_directory body) (by decide) leads).1

/-! The nodes of an older tree -/

/-- Between two trees slots have been emptied as the log says. -/
structure Ages (before after : Tree) (log : List Emptying) : Prop where
  generation (slot : Nat) :
    (after slot).generation = (before slot).generation + UInt8.ofNat (emptyings slot log)
  file {slot : Nat} {content : Bytes} (body : (before slot).body = .file content)
    (stays : ⟨slot, .removal⟩ ∉ log) :
    emptyings slot log = 0 ∧ ∃ content', after slot = { before slot with body := .file content' }
  path {names : List String} {slot : Nat} (leads : before.resolve names = some slot)
    (stays : ⟨slot, .removal⟩ ∉ log) : after.resolve names = some slot

namespace Ages

theorem refl (tree : Tree) : tree.Ages tree [] where
  generation slot := (UInt8.add_zero _).symm
  file body _ := ⟨rfl, _, by rw [← body]⟩
  path leads _ := leads

theorem trans {tree'' : Tree} {log log' : List Emptying} (first : tree.Ages tree' log)
    (second : tree'.Ages tree'' log') : tree.Ages tree'' (log ++ log') where
  generation slot := by
    rw [second.generation, first.generation, emptyings_append, UInt8.ofNat_add, UInt8.add_assoc]
  file {slot content} body stays := by
    rw [List.mem_append, not_or] at stays
    obtain ⟨none, content', isNode⟩ := first.file body stays.1
    obtain ⟨none', content'', isNode'⟩ := second.file (congrArg Node.body isNode) stays.2
    refine ⟨by rw [emptyings_append, none, none'], content'', ?_⟩
    rw [isNode', isNode]
  path leads stays := by
    rw [List.mem_append, not_or] at stays
    exact second.path (first.path leads stays.1) stays.2

theorem setContent {node : Nat} {content : Bytes} (body : (tree node).body = .file content)
    (content' : Bytes) : tree.Ages (tree.setContent node content') [] where
  generation slot := by
    have same : (tree.setContent node content' slot).generation = (tree slot).generation := by
      rw [Tree.setContent]
      by_cases isNode : slot = node
      · subst isNode
        rw [Function.update_self]
      · rw [Function.update_of_ne isNode]
    exact same.trans (UInt8.add_zero _).symm
  file {slot before} isFile _ := by
    refine ⟨rfl, ?_⟩
    rw [Tree.setContent]
    by_cases isNode : slot = node
    · subst isNode
      exact ⟨content', Function.update_self ..⟩
    · exact ⟨before, by rw [Function.update_of_ne isNode, ← isFile]⟩
  path {names slot} leads _ := by
    have same (node' : Nat) : (tree.setContent node content' node').children =
        (tree node').children := by
      rw [Tree.setContent]
      by_cases isNode : node' = node
      · subst isNode
        rw [Function.update_self, Node.children, Node.children, body]
      · rw [Function.update_of_ne isNode]
    refine follow_of_child? (fun _ => False) (fun _ impossible => impossible.elim)
      (fun node' name child isChild _ => ?_) leads not_false
    rwa [child?, same]

/-- A slot that was filled in vain. -/
theorem vacate (vacant : ¬ (tree slot).IsLive) :
    tree.Ages (tree.vacate slot) [⟨slot, .rollback⟩] where
  generation other := by
    rw [Tree.vacate]
    by_cases isSlot : other = slot
    · subst isSlot
      rw [Function.update_self, emptyings_self]
      rfl
    · rw [Function.update_of_ne isSlot, emptyings_of_ne (Ne.symm isSlot)]
      exact (UInt8.add_zero _).symm
  file {other content} body _ := by
    have notSlot : other ≠ slot := by
      rintro rfl
      refine vacant ?_
      rw [Node.IsLive, body]
      simp
    refine ⟨emptyings_of_ne (Ne.symm notSlot) _, content, ?_⟩
    rw [Tree.vacate, Function.update_of_ne notSlot, ← body]
  path {names other} leads _ := by
    refine follow_of_child? (fun _ => False) (fun _ impossible => impossible.elim)
      (fun node name child isChild _ => ?_) leads not_false
    rw [child?, Tree.vacate]
    by_cases isSlot : node = slot
    · subst isSlot
      rw [child?, WellFormed.children_of_vacant vacant] at isChild
      cases isChild
    · rwa [Function.update_of_ne isSlot]

theorem enter {parent : Nat} {name : String} {kind : FileKind} {children : List Child}
    (wellFormed : (tree.enter parent slot name kind).WellFormed slots)
    (body : (tree parent).body = .directory children) (vacant : ¬ (tree slot).IsLive) :
    tree.Ages (tree.enter parent slot name kind) [] := by
  have different : slot ≠ parent := fun same => vacant (same ▸ Node.isLive_of_directory body)
  refine ⟨fun other => ?_, fun {other content} isFile _ => ⟨rfl, content, ?_⟩,
    fun {names other} leads _ => ?_⟩
  · refine Eq.trans ?_ (UInt8.add_zero _).symm
    by_cases isSlot : other = slot
    · rw [isSlot, enter_slot]
    · by_cases isParent : other = parent
      · rw [isParent, enter_parent different]
      · rw [WellFormed.enter_of_ne isSlot isParent]
  · have notSlot : other ≠ slot := by
      rintro rfl
      refine vacant ?_
      rw [Node.IsLive, isFile]
      simp
    have notParent : other ≠ parent := by
      rintro rfl
      rw [body] at isFile
      cases isFile
    rw [WellFormed.enter_of_ne notSlot notParent, ← isFile]
  · refine follow_of_child? (fun _ => False) (fun _ impossible => impossible.elim)
      (fun node name child isChild _ => ?_) leads not_false
    exact wellFormed.child?_of_children isChild fun entry member _ =>
      (WellFormed.mem_children_enter vacant different).mpr (.inl member)

theorem leave {parent position : Nat} {child : Child} (wellFormed : tree.WellFormed slots)
    (wellFormed' : (tree.leave parent position child.inode).WellFormed slots)
    (isChild : (tree parent).children[position]? = some child)
    (leaf : (tree child.inode).children = []) :
    tree.Ages (tree.leave parent position child.inode) [⟨child.inode, .removal⟩] := by
  have inParent := List.mem_of_getElem? isChild
  have different := WellFormed.ne_parent_of_leaf inParent leaf
  have body := Node.directory_of_mem_children inParent
  refine ⟨fun slot => ?_, fun {slot content} isFile stays => ?_, fun {names slot} leads stays => ?_⟩
  · by_cases isTarget : slot = child.inode
    · rw [isTarget, WellFormed.leave_target, emptyings_self]
      rfl
    · rw [emptyings_of_ne (Ne.symm isTarget)]
      refine Eq.trans ?_ (UInt8.add_zero _).symm
      by_cases isParent : slot = parent
      · rw [isParent, leave_parent different]
      · rw [WellFormed.leave_of_ne isTarget isParent]
  · have notTarget : slot ≠ child.inode := by
      rintro rfl
      exact stays (List.mem_singleton.mpr rfl)
    have notParent : slot ≠ parent := by
      rintro rfl
      rw [body] at isFile
      cases isFile
    refine ⟨emptyings_of_ne (Ne.symm notTarget) _, content, ?_⟩
    rw [WellFormed.leave_of_ne notTarget notParent, ← isFile]
  · have notTarget : slot ≠ child.inode := by
      rintro rfl
      exact stays (List.mem_singleton.mpr rfl)
    refine follow_of_child? (· = child.inode) (fun node isTarget => isTarget ▸ leaf)
      (fun node name other isOther kept => ?_) leads notTarget
    exact wellFormed'.child?_of_children isOther fun entry member same =>
      (wellFormed.mem_children_leave isChild leaf).mpr ⟨member, same ▸ kept⟩

theorem write (geometry : Geometry) (free : Nat) (file : OpenFile) (bytes : Bytes) :
    tree.Ages (tree.write geometry free file bytes).2 [] := by
  rw [Tree.write]
  cases live : tree.contentOf file with
  | none => exact .refl tree
  | some content =>
      dsimp only
      split
      · exact .refl tree
      · split
        · exact .refl tree
        · exact .setContent (contentOf_eq_some.mp live).1 _

theorem truncate (geometry : Geometry) (free : Nat) (file : OpenFile) (length : Nat) :
    tree.Ages (tree.truncate geometry free file length).2 [] := by
  rw [Tree.truncate]
  cases live : tree.contentOf file with
  | none => exact .refl tree
  | some content =>
      dsimp only
      split
      · exact .refl tree
      · exact .setContent (contentOf_eq_some.mp live).1 _

end Ages

end Tree

namespace Tree

variable {tree tree' : Tree}

/-! What creating and removing can do -/

theorem of_create {geometry : Geometry} {free : Nat} {path : String} {kind : FileKind}
    {answer : Except FsError Nat} (creates : tree.create geometry free path kind = (answer, tree')) :
    (∃ error, answer = .error error ∧ error ≠ .noFreeBlocks ∧ tree' = tree) ∨
    (∃ slot, answer = .error .noFreeBlocks ∧ tree.vacancy geometry.inodeCount = some slot ∧
      tree' = tree.vacate slot) ∨
    ∃ slot parent children name, answer = .ok slot ∧
      tree.vacancy geometry.inodeCount = some slot ∧ (tree parent).body = .directory children ∧
      tree' = tree.enter parent slot name kind := by
  cases split : Path.splitLast path with
  | error error =>
      rw [create, split] at creates
      cases creates
      refine .inl ⟨error, rfl, ?_, rfl⟩
      rintro rfl
      exact absurd (Path.splitLast_error split) (by simp)
  | ok found =>
      obtain ⟨parents, name⟩ := found
      cases found : tree.directory? parents with
      | none =>
          rw [create, split] at creates
          dsimp only at creates
          rw [found] at creates
          cases creates
          refine .inl ⟨_, rfl, ?_, rfl⟩
          cases kind <;> exact fun impossible => by cases impossible
      | some directory =>
          obtain ⟨parent, children⟩ := directory
          rw [create_of_directory split found] at creates
          split at creates
          · cases creates
            exact .inl ⟨_, rfl, by simp, rfl⟩
          · cases vacancy : tree.vacancy geometry.inodeCount with
            | none =>
                rw [vacancy] at creates
                cases creates
                exact .inl ⟨_, rfl, by simp, rfl⟩
            | some slot =>
                rw [vacancy] at creates
                dsimp only at creates
                split at creates
                · cases creates
                  exact .inr (.inl ⟨slot, rfl, rfl, rfl⟩)
                · cases creates
                  exact .inr (.inr ⟨slot, parent, children, name, rfl, rfl,
                    (directory?_eq_some.mp found).2, rfl⟩)

theorem of_remove {path : String} {answer : Except FsError Unit}
    (removes : tree.remove path = (answer, tree')) :
    (∃ error, answer = .error error ∧ tree' = tree) ∨
    ∃ parent position child, answer = .ok () ∧ Represents.resolved tree path = .ok child.inode ∧
      (tree parent).children[position]? = some child ∧ (tree child.inode).children = [] ∧
      tree' = tree.leave parent position child.inode := by
  cases split : Path.splitLast path with
  | error error =>
      rw [remove, split] at removes
      cases removes
      exact .inl ⟨error, rfl, rfl⟩
  | ok found =>
      obtain ⟨parents, name⟩ := found
      cases leads : tree.resolve (parents ++ [name]) with
      | none =>
          rw [remove_of_none split leads] at removes
          cases removes
          exact .inl ⟨_, rfl, rfl⟩
      | some target =>
          obtain ⟨parent, children, position, found, isChild, isRemove⟩ :=
            remove_of_resolve split leads
          have isChildren := Node.children_of_directory (directory?_eq_some.mp found).2
          rw [isRemove] at removes
          split at removes
          · cases removes
            exact .inl ⟨_, rfl, rfl⟩
          · next leaf =>
            cases removes
            refine .inr ⟨parent, position, ⟨name, target⟩, rfl, ?_, isChildren ▸ isChild,
              not_not.mp leaf, rfl⟩
            rw [Represents.resolved, Path.components_of_splitLast split]
            dsimp only
            rw [leads]

end Tree

/-! What operations empty -/

namespace Session

variable {geometry : Geometry} {session after : Session} {index : Nat} {mounted : Host.Mounted}

/-- The slots that an operation with an answer empties: the one that the path of a removed node leads
to, or the one that the cursor has for a new node which does not find room for its entry. -/
def emptied (session : Session) (geometry : Geometry) (operation : Image.Operation)
    (answer : Except Halt Image.Answer) : List Emptying :=
  match operation, answer with
  | .remove path, .ok _ =>
      match (geometry.volume 0).resolve path session.backing with
      | .ok (_, number) => [⟨number, .removal⟩]
      | .error _ => []
  | .create _ _, .error (.failed .noFreeBlocks) =>
      [⟨session.word Superblock.nextFreeInodeOffset, .rollback⟩]
  | _, _ => []

theorem InOrder.resolve_apply (order : session.InOrder geometry) {path : String} {node : Nat}
    (resolved : Represents.resolved (session.tree geometry) path = .ok node) :
    ∃ inode, (geometry.volume 0).resolve path session.backing = .ok (inode, node) := by
  obtain ⟨chain, represents⟩ := order.represents
  have answers := @Represents.resolve_answers (geometry.volume 0) _ _ _ represents path
  rw [resolved] at answers
  exact ⟨_, answers session.backing order.rest.ready rfl⟩

theorem InOrder.cursor (order : session.InOrder geometry) {slot : Nat}
    (vacancy : (session.tree geometry).vacancy geometry.inodeCount = some slot) :
    session.word Superblock.nextFreeInodeOffset = slot := by
  obtain ⟨chain, represents⟩ := order.represents
  have cursor := represents.slotCursor
  rwa [vacancy, Option.getD_some] at cursor

/-- An operation empties what it is said to empty, and leaves all other files in place. -/
theorem InOrder.ages (order : session.InOrder geometry) (isOpen : session.images[index]? = some mounted)
    {operation : Image.Operation} {answer : Except Halt Image.Answer}
    (performed : session.perform index operation = some (answer, after)) :
    (session.tree geometry).Ages (after.tree geometry) (session.emptied geometry operation answer) := by
  obtain ⟨after', performs, turns, -⟩ := order.perform isOpen operation
  rw [performs] at performed
  cases performed
  obtain ⟨chain, represents⟩ := order.represents
  obtain ⟨chain', represents'⟩ := turns.inOrder.represents
  have wellFormed' := represents'.wellFormed
  rw [turns.tree] at wellFormed' ⊢
  rw [outcome] at wellFormed' ⊢
  cases operation with
  | create path kind =>
      rw [Image.Operation.outcome] at wellFormed' ⊢
      cases creates : (session.tree geometry).create geometry
          ((session.disk geometry).counter .freeBlocks) path kind with
      | mk answer tree' =>
          rw [creates] at wellFormed'
          dsimp only at wellFormed' ⊢
          rcases Tree.of_create creates with ⟨error, rfl, notFull, rfl⟩ |
            ⟨slot, rfl, vacancy, rfl⟩ | ⟨slot, parent, children, name, rfl, vacancy, body, rfl⟩
          · have none : session.emptied geometry (.create path kind)
                (.error (.failed error)) = [] := by
              cases error with
              | noFreeBlocks => exact absurd rfl notFull
              | _ => rfl
            exact none ▸ .refl _
          · have isSlot : session.emptied geometry (.create path kind)
                (.error (.failed .noFreeBlocks)) = [⟨slot, .rollback⟩] := by
              rw [emptied, order.cursor vacancy]
            exact isSlot ▸ .vacate (Tree.vacancy_eq_some.mp vacancy).2.2.1
          · exact .enter wellFormed' body (Tree.vacancy_eq_some.mp vacancy).2.2.1
  | remove path =>
      rw [Image.Operation.outcome] at wellFormed' ⊢
      cases removes : (session.tree geometry).remove path with
      | mk answer tree' =>
          rw [removes] at wellFormed'
          dsimp only at wellFormed' ⊢
          rcases Tree.of_remove removes with ⟨error, rfl, rfl⟩ |
            ⟨parent, position, child, rfl, resolved, isChild, leaf, rfl⟩
          · exact .refl _
          · have isSlot : session.emptied geometry (.remove path) (.ok .done) =
                [⟨child.inode, .removal⟩] := by
              obtain ⟨inode, resolves⟩ := order.resolve_apply resolved
              rw [emptied, resolves]
            exact isSlot ▸ .leave represents.wellFormed wellFormed' isChild leaf
  | write handle bytes =>
      rw [Image.Operation.outcome]
      split
      · exact .refl _
      · next file _ =>
        split
        · exact .refl _
        · have ages := @Tree.Ages.write (session.tree geometry) geometry
            ((session.disk geometry).counter .freeBlocks) file bytes
          split <;> next result => rw [result] at ages; exact ages
  | truncate handle length =>
      rw [Image.Operation.outcome]
      split
      · exact .refl _
      · split
        · exact .refl _
        · exact .truncate ..
  | openFile path mode =>
      rw [Image.Operation.outcome]
      split <;> exact .refl _
  | closeFile handle =>
      rw [Image.Operation.outcome]
      split <;> exact .refl _
  | read handle count =>
      rw [Image.Operation.outcome]
      split
      · exact .refl _
      · dsimp only
        split <;> exact .refl _
  | seek handle origin delta =>
      rw [Image.Operation.outcome]
      split
      · exact .refl _
      · dsimp only
        split <;> exact .refl _
  | stat path => exact .refl _
  | readDirectory path => exact .refl _
  | usage => exact .refl _
  | check => exact .refl _

end Session

end ImageFs
