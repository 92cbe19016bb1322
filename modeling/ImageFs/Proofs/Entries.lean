import ImageFs.Proofs.Slots

/-!
Changing the tree on the disk. Main statements: creating enters an empty node in the lowest vacant slot
and at the end of its parent, removing takes exactly one child out, and both fail without a trace, but
for the generation of a slot whose node could not be entered.
-/

namespace ImageFs

open Function (update)

variable {volume : Volume} {before after : Disk} {tree : Tree} {chain : Nat → List Nat}

/-! Appending an entry -/

theorem Bytes.written_length {content patch : Bytes} (some : patch ≠ []) :
    content.written content.length patch = content ++ patch := by
  rw [written_of_ne_nil some, Nat.sub_self, overlay]
  simp [zeros]

def Tree.append (tree : Tree) (parent : Nat) (child : Child) : Tree :=
  update tree parent
    { tree parent with body := .directory ((tree parent).children ++ [child]) }

namespace Stored

variable {parent : Nat} {children : List Child} {name : String} {target : Nat}

theorem notMem_of_child? (none : tree.child? parent name = none) :
    name ∉ (tree parent).children.map Child.name := by
  rw [Tree.child?, Option.map_eq_none_iff, List.find?_eq_none] at none
  intro member
  obtain ⟨child, member, same⟩ := List.mem_map.mp member
  exact none child member (by simpa using same)

/-- What comes before the growth of a directory by an entry. -/
theorem appendEntry_begins (stored : Stored volume.geometry before tree chain)
    (body : (tree parent).body = .directory children) (inside : parent < volume.geometry.inodeCount)
    (fits : NameFits name) (new : tree.child? parent name = none)
    {answer : Except FsError Unit}
    (rest : Leads volume (do
        let grown ← volume.growChain (chain parent) ((tree parent).stored.length + recordLength)
        volume.writeChain grown (tree parent).stored.length
          ({ name, inode := UInt64.ofNat target } : DirEntry).record
        volume.putInode parent { (tree parent).inode (chain parent) with
          size := UInt64.ofNat ((tree parent).stored.length + recordLength)
          firstBlock := UInt64.ofNat (grown.headD 0) }) before answer after) :
    Leads volume (volume.appendEntry parent name target) before answer after := by
  have missing : children.findIdx? (·.name = name) = none := by
    rw [List.findIdx?_eq_none_iff]
    intro child member
    have notMem := notMem_of_child? new
    rw [Node.children_of_directory body] at notMem
    simp only [decide_eq_false_iff_not]
    rintro rfl
    exact notMem (List.mem_map_of_mem member)
  have encoded : (({ name, inode := UInt64.ofNat target } : DirEntry).encode).mapError
      (fun _ => FsError.nameTooLong) =
        .ok ({ name, inode := UInt64.ofNat target } : DirEntry).record := by
    rw [DirEntry.encode_of_fits fits]
    rfl
  refine (Leads.query (stored.getInode_answers inside)).bind ?_
  refine (Leads.query (stored.readListing_answers body)).bind ?_
  rw [stored.find?_records body, missing]
  refine Leads.ite_neg (by simp) ?_
  refine (Leads.except encoded).bind ?_
  rw [stored.size_toNat]
  dsimp only at rest ⊢
  cases isLast : (chain parent).getLast? with
  | none => exact rest
  | some tail =>
      exact Volume.withBlock_leads (stored.ledger.isData parent tail (List.mem_of_getLast? isLast))
        rest

theorem appendEntry_leads (stored : Stored volume.geometry before tree chain)
    (body : (tree parent).body = .directory children) (inside : parent < volume.geometry.inodeCount)
    (fits : NameFits name) (inside' : target < volume.geometry.inodeCount)
    (new : tree.child? parent name = none)
    (enough : Tree.extraBlocks volume.geometry (children.length * 256)
      ((children.length + 1) * 256) ≤ before.counter .freeBlocks) :
    ∃ fresh after,
      Leads volume (volume.appendEntry parent name target) before (.ok ()) after ∧
      Stored volume.geometry after (tree.append parent ⟨name, target⟩)
        (update chain parent (chain parent ++ fresh)) ∧
      after.counter .nextFreeInode = before.counter .nextFreeInode ∧
      Bitmap.SameFrom volume.geometry.blocks before.bitmap after.bitmap := by
  let child : Child := ⟨name, target⟩
  let node : Node := { tree parent with body := .directory ((tree parent).children ++ [child]) }
  have notAnchor := stored.not_anchor body
  have isChildren : (tree parent).children = children := Node.children_of_directory body
  have length := stored.length_stored body
  have recordSize : child.entry.record.length = recordLength := DirEntry.length_record fits
  have isRecordLength : recordLength = 256 := rfl
  have some : child.entry.record ≠ [] := by
    intro none
    rw [none] at recordSize
    cases recordSize
  have bytes : (tree parent).stored.written (tree parent).stored.length child.entry.record =
      node.stored := by
    rw [Bytes.written_length some, Node.stored_of_directory body, Node.stored, Body.stored,
      isChildren, List.flatMap_append, List.flatMap_singleton]
  have size : node.stored.length = (tree parent).stored.length + recordLength := by
    rw [← bytes, Bytes.written_length some, List.length_append, recordSize]
  have fewer : volume.geometry.blocksFor ((tree parent).stored.written
      (tree parent).stored.length child.entry.record).length -
        volume.geometry.blocksFor (tree parent).stored.length ≤ before.counter .freeBlocks := by
    rwa [bytes, size, length, isRecordLength, ← Nat.succ_mul]
  obtain ⟨grows, writes, refilled⟩ := stored.grown_leads notAnchor some fewer
  generalize before.nextBits volume.geometry _ = bits at *
  rw [bytes] at refilled
  rw [recordSize] at grows
  have replaced := @Stored.replace volume before _ tree chain stored parent node _ inside
    notAnchor (stored.fits parent) ?_ refilled
  refine ⟨_, _, stored.appendEntry_begins body inside fits new (grows.bind (writes.bind ?_)),
    replaced, refilled.beside.slotCursor, refilled.beside.spare⟩
  · have isInode : ({ (tree parent).inode (chain parent) with
        size := UInt64.ofNat ((tree parent).stored.length + recordLength)
        firstBlock := UInt64.ofNat
          ((chain parent ++ bits.map volume.geometry.blockOfBit).headD 0) } : Inode) =
          node.inode (chain parent ++ bits.map volume.geometry.blockOfBit) := by
      rw [← size]
      simp [Node.inode, node, body, Body.kind]
    rw [isInode]
    exact Volume.putInode_leads inside (stored.fits parent)
  · intro other member
    rcases List.mem_append.mp member with old | new
    · exact stored.child parent other old
    · cases List.mem_singleton.mp new
      exact ⟨fits, inside'⟩

theorem appendEntry_error (stored : Stored volume.geometry before tree chain)
    (body : (tree parent).body = .directory children) (inside : parent < volume.geometry.inodeCount)
    (fits : NameFits name) (new : tree.child? parent name = none)
    (fewer : before.counter .freeBlocks < Tree.extraBlocks volume.geometry (children.length * 256)
      ((children.length + 1) * 256)) :
    Leads volume (volume.appendEntry parent name target) before (.error .noFreeBlocks) before := by
  have isRecordLength : recordLength = 256 := rfl
  refine stored.appendEntry_begins body inside fits new (Leads.bind_error ?_)
  refine Volume.growChain_error stored.ledger ?_
  rw [stored.length, stored.length_stored body, isRecordLength, ← Nat.succ_mul]
  rwa [Tree.extraBlocks, stored.ledger.free] at fewer

end Stored

/-! Names in paths -/

namespace Path

theorem nameFits_of_checkName {path name checked : String}
    (isChecked : checkName path name = .ok checked) : NameFits checked := by
  rw [checkName] at isChecked
  split at isChecked
  · cases isChecked
  · next allowed =>
    split at isChecked
    · cases isChecked
    · next short =>
      cases isChecked
      exact ⟨fun zero => allowed (.inr (.inr zero)), Nat.not_lt.mp short⟩

theorem nameFits_of_mapM {path : String} {parts : List (List Char)} {names : List String}
    (checked : parts.mapM (fun piece => checkName path (String.ofList piece)) = .ok names) :
    ∀ name ∈ names, NameFits name := by
  induction parts generalizing names with
  | nil =>
      cases checked
      intro name member
      cases member
  | cons part rest induction =>
      rw [List.mapM_cons] at checked
      simp only [bind, Except.bind, pure, Except.pure] at checked
      split at checked
      · cases checked
      · next first isFirst =>
        split at checked
        · cases checked
        · next others areOthers =>
          cases checked
          intro name member
          rcases List.mem_cons.mp member with rfl | member
          · exact nameFits_of_checkName isFirst
          · exact induction areOthers name member

theorem nameFits_of_splitLast {path name : String} {parents : List String}
    (split : splitLast path = .ok (parents, name)) : NameFits name := by
  simp only [splitLast, bind, Except.bind] at split
  split at split
  · cases split
  · next names isNames =>
    split at split
    · next last isLast =>
      cases split
      rw [components] at isNames
      split at isNames
      · exact nameFits_of_mapM isNames name (List.mem_of_getLast? isLast)
      · cases isNames
    · cases split

end Path

/-! Creating -/

namespace Tree

variable (tree : Tree)

/-- Making an empty node under a path. A new node that cannot be entered leaves its slot one generation
older. -/
def create (geometry : Geometry) (free : Nat) (path : String) (kind : FileKind) :
    Except FsError Nat × Tree :=
  match Path.splitLast path with
  | .error error => (.error error, tree)
  | .ok (parents, name) =>
      match tree.directory? parents with
      | none => (.error (Volume.missingParent path kind.toInodeKind), tree)
      | some (parent, children) =>
          if (tree.child? parent name).isSome then (.error .alreadyExists, tree)
          else
            match tree.vacancy geometry.inodeCount with
            | none => (.error .noFreeInodes, tree)
            | some slot =>
                if free < extraBlocks geometry (children.length * 256)
                    ((children.length + 1) * 256) then
                  (.error .noFreeBlocks, tree.vacate slot)
                else (.ok slot, tree.enter parent slot name kind)

variable {tree}

theorem directory?_eq_some {names : List String} {node : Nat} {children : List Child} :
    tree.directory? names = some (node, children) ↔
      tree.resolve names = some node ∧ (tree node).body = .directory children := by
  rw [directory?]
  cases tree.resolve names with
  | none => simp
  | some found =>
      simp only [Option.some.injEq]
      cases body : (tree found).body with
      | directory children' =>
          simp only [Option.some.injEq, Prod.mk.injEq]
          constructor
          · rintro ⟨rfl, rfl⟩
            exact ⟨rfl, body⟩
          · rintro ⟨rfl, isBody⟩
            rw [body] at isBody
            cases isBody
            exact ⟨rfl, rfl⟩
      | _ =>
          simp only [reduceCtorEq, false_iff]
          rintro ⟨rfl, isBody⟩
          rw [body] at isBody
          cases isBody

theorem append_fill {parent slot : Nat} {name : String} {kind : FileKind} (different : slot ≠ parent) :
    (tree.fill slot name kind).append parent ⟨name, slot⟩ = tree.enter parent slot name kind := by
  rw [append, fill, enter, Function.update_of_ne (Ne.symm different)]
  exact Function.update_comm different ..

end Tree

namespace Volume

variable (volume : Volume)

/-- Stores a new inode and enters it in a directory, or gives it back. -/
def enterInode (parent : Nat) (name : String) (kind : InodeKind) : Update Nat := do
  let number ← volume.insertInode (.new name kind)
  try volume.appendEntry parent name number
  catch error =>
    let _ ← (volume.emptyInode number).attempt
    throw error
  return number

def createLocked (path : String) (kind : InodeKind) (parents : List String) (name : String) :
    Update Nat := do
  let (parent, parentNumber) ←
    try (volume.walkFromRoot path parents : Update (Inode × Nat))
    catch error =>
      match error with
      | .noSuchFile _ => throw (missingParent path kind)
      | error => throw error
  if !parent.isDirectory then throw (missingParent path kind)
  if (← volume.lookup parent name).isSome then throw .alreadyExists
  volume.enterInode parentNumber name kind

theorem create_eq (path : String) (kind : FileKind) :
    volume.create path kind.toInodeKind = (do
      let (parents, name) ← Path.splitLast path
      volume.withDirectoryLock .exclusive
        (volume.createLocked path kind.toInodeKind parents name)) := by
  cases kind <;> rfl

end Volume

/-- The disk after the slot of a node that could not be entered has been given back. -/
def Disk.retired (disk : Disk) (tree : Tree) (slot : Nat) : Disk :=
  { disk with
    record := update disk.record slot
      ((Node.vacant ((tree slot).generation + 1)).inode []).record }

namespace Represents

variable {parent slot : Nat} {children : List Child} {name : String} {kind : FileKind}

theorem inside_of_directory (represents : Represents volume.geometry before tree chain)
    (body : (tree parent).body = .directory children) : parent < volume.geometry.inodeCount :=
  represents.wellFormed.lt_of_isLive (Node.isLive_of_directory body)

theorem slot_ne_parent (body : (tree parent).body = .directory children)
    (vacancy : tree.vacancy volume.geometry.inodeCount = some slot) : slot ≠ parent := by
  rintro rfl
  exact (Tree.vacancy_eq_some.mp vacancy).2.2.1 (Node.isLive_of_directory body)

theorem enterInode_leads (represents : Represents volume.geometry before tree chain)
    (body : (tree parent).body = .directory children)
    (vacancy : tree.vacancy volume.geometry.inodeCount = some slot) (fits : NameFits name)
    (new : tree.child? parent name = none)
    (enough : Tree.extraBlocks volume.geometry (children.length * 256)
      ((children.length + 1) * 256) ≤ before.counter .freeBlocks) :
    ∃ fresh after,
      Leads volume (volume.enterInode parent name kind.toInodeKind) before (.ok slot) after ∧
      Represents volume.geometry after (tree.enter parent slot name kind)
        (update chain parent (chain parent ++ fresh)) ∧
      Bitmap.SameFrom volume.geometry.blocks before.bitmap after.bitmap := by
  obtain ⟨free, inside, vacant, -⟩ := Tree.vacancy_eq_some.mp vacancy
  have different := slot_ne_parent body vacancy
  have parentStays : tree.fill slot name kind parent = tree parent :=
    Function.update_of_ne (Ne.symm different) ..
  obtain ⟨_, inserts, stored, cursor, record, next, rfl⟩ :=
    represents.insertInode_leads vacancy fits kind
  obtain ⟨fresh, after, appends, stored', cursor', spare⟩ :=
    stored.appendEntry_leads (by rw [parentStays]; exact body) (represents.inside_of_directory body)
      fits inside (by rw [Tree.child?, parentStays]; exact new) enough
  rw [Tree.append_fill different] at stored'
  refine ⟨fresh, after, inserts.bind (Leads.returning (.tryCatch_ok appends) slot),
    ⟨stored', ?_, ?_⟩, spare⟩
  · exact represents.wellFormed.enter body free inside vacant fits (by
      rw [← Node.children_of_directory body]
      exact Stored.notMem_of_child? new)
  · rw [cursor', cursor]
    congr 1
    refine (Tree.vacancy_congr (fun node => ?_) _).symm
    rw [Tree.isLive_fill]
    by_cases same : node = slot
    · subst same
      exact iff_of_true Tree.WellFormed.isLive_enter_slot (.inl rfl)
    · rw [Tree.WellFormed.isLive_enter body same]
      simp [same]

/-- Giving a vacant slot back makes it older. -/
theorem retired (represents : Represents volume.geometry before tree chain)
    (vacancy : tree.vacancy volume.geometry.inodeCount = some slot) :
    Represents volume.geometry (before.retired tree slot) (tree.vacate slot) chain := by
  obtain ⟨free, inside, vacant, -⟩ := Tree.vacancy_eq_some.mp vacancy
  refine ⟨?_, represents.wellFormed.vacate inside vacant, ?_⟩
  · exact represents.stored.replaceEmpty inside (Nat.ne_of_gt free)
      ⟨by simp [Node.vacant], Nat.zero_le _⟩ (represents.stored_of_vacant vacant).2 rfl rfl
  · rw [Tree.vacancy_congr fun node => ?_]
    · exact represents.slotCursor
    · rw [Tree.isLive_vacate]
      refine ⟨And.right, fun live => ⟨?_, live⟩⟩
      rintro rfl
      exact vacant live

theorem enterInode_error (represents : Represents volume.geometry before tree chain)
    (body : (tree parent).body = .directory children)
    (vacancy : tree.vacancy volume.geometry.inodeCount = some slot) (fits : NameFits name)
    (new : tree.child? parent name = none)
    (fewer : before.counter .freeBlocks < Tree.extraBlocks volume.geometry (children.length * 256)
      ((children.length + 1) * 256)) :
    Leads volume (volume.enterInode parent name kind.toInodeKind) before (.error .noFreeBlocks)
        (before.retired tree slot) ∧
      Represents volume.geometry (before.retired tree slot) (tree.vacate slot) chain := by
  obtain ⟨free, inside, -⟩ := Tree.vacancy_eq_some.mp vacancy
  have different := slot_ne_parent body vacancy
  have cursor := represents.slotCursor
  rw [vacancy, Option.getD_some] at cursor
  have parentStays : tree.fill slot name kind parent = tree parent :=
    Function.update_of_ne (Ne.symm different) ..
  obtain ⟨_, inserts, stored, moved, record, next, rfl⟩ :=
    represents.insertInode_leads vacancy fits kind
  have fails := @Stored.appendEntry_error _ _ _ _ parent children name slot stored
    (by rw [parentStays]; exact body) (represents.inside_of_directory body)
    fits (by rw [Tree.child?, parentStays]; exact new) fewer
  have empties := Volume.emptyInode_leads free inside (stored.fits slot) (stored.record slot inside)
  -- the cursor went one vacant slot further and comes back to this one
  have back : lowered ((tree.fill slot name kind).vacancy volume.geometry.inodeCount |>.getD 0)
      slot = slot := by
    rw [lowered, Tree.vacancy_fill vacancy]
    cases following : (tree.fill slot name kind).vacantFrom (slot + 1)
        (volume.geometry.inodeCount - (slot + 1)) with
    | none => exact if_pos (.inl rfl)
    | some behind =>
        exact if_pos (.inr (Tree.vacantFrom_eq_some.mp following).1)
  have generation : ((tree.fill slot name kind slot).inode (chain slot)).generation =
      (tree slot).generation := by
    rw [Tree.fill, Function.update_self]
    rfl
  rw [moved, back, generation] at empties
  simp only [Function.update_idem] at empties
  rw [← cursor, Function.update_eq_self] at empties
  refine ⟨inserts.bind (Leads.bind_error (Leads.tryCatch_error fails ?_)),
    represents.retired vacancy⟩
  rw [← cursor]
  exact (Leads.attempt empties).bind (.throw _)

/-- What the walk to a parent ends with: the directory, or the error that `missing` stands for. -/
theorem walk_directory (represents : Represents volume.geometry before tree chain)
    {names : List String} {children : List Child}
    (found : tree.directory? names = some (parent, children)) (path : String) :
    Answers volume (volume.walkFromRoot path names) before
      (.ok ((tree parent).inode (chain parent), parent)) := by
  have walks := represents.walkFromRoot_answers path names
  rwa [(Tree.directory?_eq_some.mp found).1] at walks

theorem isDirectory_inode (body : (tree parent).body = .directory children) :
    ((tree parent).inode (chain parent)).isDirectory = true := by
  rw [Node.isDirectory_inode, Node.children_of_directory body]
  exact decide_eq_true body

theorem missing_directory (represents : Represents volume.geometry before tree chain)
    {names : List String} (none : tree.directory? names = none) (path : String) :
    Answers volume (volume.walkFromRoot path names) before (.error (.noSuchFile path)) ∨
      ∃ inode number, inode.isDirectory = false ∧
        Answers volume (volume.walkFromRoot path names) before (.ok (inode, number)) := by
  have walks := represents.walkFromRoot_answers path names
  rw [Tree.directory?] at none
  cases found : tree.resolve names with
  | none =>
      rw [found] at walks
      exact .inl walks
  | some node =>
      rw [found] at walks none
      refine .inr ⟨_, _, ?_, walks⟩
      rw [Node.isDirectory_inode]
      refine decide_eq_false fun body => ?_
      dsimp only at none
      rw [body] at none
      cases none

/-- The walk to a parent and the look for a name in it. -/
theorem createLocked_begins (represents : Represents volume.geometry before tree chain)
    {parents : List String} (found : tree.directory? parents = some (parent, children))
    {path : String} {answer : Except FsError Nat}
    (rest : Leads volume (do
      if (tree.child? parent name).isSome then throw .alreadyExists
      volume.enterInode parent name kind.toInodeKind) before answer after) :
    Leads volume (volume.createLocked path kind.toInodeKind parents name) before answer after := by
  have body := (Tree.directory?_eq_some.mp found).2
  refine Leads.bind (Leads.tryCatch_ok (Leads.query (represents.walk_directory found path))) ?_
  refine Leads.ite_neg (by simp [isDirectory_inode body]) ?_
  exact (Leads.query (represents.stored.lookup_answers body name)).bind rest

theorem createLocked_enters (represents : Represents volume.geometry before tree chain)
    (path : String) {parents : List String}
    (found : tree.directory? parents = some (parent, children)) (fits : NameFits name)
    (new : tree.child? parent name = none)
    (vacancy : tree.vacancy volume.geometry.inodeCount = some slot)
    (enough : Tree.extraBlocks volume.geometry (children.length * 256)
      ((children.length + 1) * 256) ≤ before.counter .freeBlocks) :
    ∃ fresh after,
      Leads volume (volume.createLocked path kind.toInodeKind parents name) before (.ok slot) after ∧
      Represents volume.geometry after (tree.enter parent slot name kind)
        (update chain parent (chain parent ++ fresh)) ∧
      Bitmap.SameFrom volume.geometry.blocks before.bitmap after.bitmap := by
  have body := (Tree.directory?_eq_some.mp found).2
  obtain ⟨fresh, after, enters, facts⟩ := represents.enterInode_leads body vacancy fits new enough
  refine ⟨fresh, after, represents.createLocked_begins found ?_, facts⟩
  exact Leads.ite_neg (by simp [new]) enters

theorem createLocked_leads (represents : Represents volume.geometry before tree chain) (path : String)
    (kind : FileKind) {parents : List String} {name : String}
    (split : Path.splitLast path = .ok (parents, name)) :
    ∃ after chain',
      Leads volume (volume.createLocked path kind.toInodeKind parents name) before
        (tree.create volume.geometry (before.counter .freeBlocks) path kind).1 after ∧
      Represents volume.geometry after
        (tree.create volume.geometry (before.counter .freeBlocks) path kind).2 chain' ∧
      ∀ error, (tree.create volume.geometry (before.counter .freeBlocks) path kind).1 =
          .error error →
        after = before ∨ error = .noFreeBlocks ∧ ∃ slot,
          tree.vacancy volume.geometry.inodeCount = some slot ∧
          after = before.retired tree slot := by
  have fits := Path.nameFits_of_splitLast split
  rw [Tree.create, split]
  dsimp only
  cases found : tree.directory? parents with
  | none =>
      refine ⟨before, chain, ?_, represents, fun _ _ => .inl rfl⟩
      rcases represents.missing_directory found path with walks | ⟨inode, number, notDirectory, walks⟩
      · exact Leads.bind_error (Leads.tryCatch_error (Leads.query walks) (.throw _))
      · refine Leads.bind (Leads.tryCatch_ok (Leads.query walks)) ?_
        exact Leads.ite_pos (by simp [notDirectory]) (Leads.throw _).bind_error
  | some found' =>
      obtain ⟨parent, children⟩ := found'
      have body := (Tree.directory?_eq_some.mp found).2
      dsimp only
      cases new : tree.child? parent name with
      | some child =>
          refine ⟨before, chain, represents.createLocked_begins found ?_, represents,
            fun _ _ => .inl rfl⟩
          exact Leads.ite_pos (by simp [new]) (Leads.throw _).bind_error
      | none =>
          have continues {answer : Except FsError Nat} {after : Disk}
              (rest : Leads volume (volume.enterInode parent name kind.toInodeKind) before answer
                after) :
              Leads volume (volume.createLocked path kind.toInodeKind parents name) before answer
                after :=
            represents.createLocked_begins found (Leads.ite_neg (by simp [new]) rest)
          rw [if_neg (by simp)]
          cases vacancy : tree.vacancy volume.geometry.inodeCount with
          | none =>
              refine ⟨before, chain, ?_, represents, fun _ _ => .inl rfl⟩
              exact continues (represents.insertInode_error vacancy _).bind_error
          | some slot =>
              dsimp only
              split
              · next fewer =>
                obtain ⟨fails, represents'⟩ :=
                  represents.enterInode_error body vacancy fits new fewer
                refine ⟨_, chain, continues fails, represents', fun error isError => .inr ?_⟩
                cases isError
                exact ⟨rfl, slot, rfl, rfl⟩
              · next enough =>
                obtain ⟨fresh, after, enters, represents', -⟩ :=
                  represents.createLocked_enters path found fits new vacancy (Nat.not_lt.mp enough)
                exact ⟨after, _, enters, represents', fun _ impossible => by cases impossible⟩

end Represents

/-! Taking an entry out -/

theorem Bytes.overlay_flatMap {α : Type} {record : α → Bytes} {list : List α} {item : α}
    {position : Nat} (inside : position < list.length)
    (lengths : ∀ other ∈ list, (record other).length = 256) (length : (record item).length = 256)
    (tail : Bytes) :
    overlay (list.flatMap record ++ tail) (position * 256) (record item) =
      (list.set position item).flatMap record ++ tail := by
  induction list generalizing position with
  | nil => cases inside
  | cons head rest induction =>
      have here := lengths head List.mem_cons_self
      cases position with
      | zero =>
          rw [List.flatMap_cons, List.set_cons_zero, List.flatMap_cons, List.append_assoc, overlay,
            Nat.zero_mul, Nat.zero_add, length, List.take_zero, List.drop_left' here]
          simp
      | succ position =>
          have others := induction (Nat.lt_of_succ_lt_succ inside)
            fun other member => lengths other (List.mem_cons_of_mem _ member)
          have back : (position + 1) * 256 - (record head).length = position * 256 := by omega
          rw [List.flatMap_cons, List.set_cons_succ, List.flatMap_cons, List.append_assoc,
            overlay_append_of_le _ (by omega), back, others, List.append_assoc]

theorem Bytes.overlay_last {α : Type} {record : α → Bytes} {front : List α} {last : α}
    (lengths : ∀ other ∈ front, (record other).length = 256) (length : (record last).length = 256)
    (padding : Nat) :
    overlay ((front ++ [last]).flatMap record ++ zeros padding) (front.length * 256) (zeros 256) =
      front.flatMap record ++ zeros (256 + padding) := by
  have behind : (front.flatMap record).length = front.length * 256 := length_flatMap_records lengths
  rw [List.flatMap_append, List.flatMap_singleton, List.append_assoc,
    overlay_append_of_le _ (Nat.le_of_eq behind), behind, Nat.sub_self, overlay, Nat.zero_add,
    length_zeros, List.drop_left' length, List.take_zero, List.nil_append, zeros_append]

theorem Tree.moveLast_concat {children : List Child} {position : Nat}
    (inside : position < children.length) :
    ∃ last, children.getLast? = some last ∧
      children.set position last = Tree.moveLast children position ++ [last] := by
  have notEmpty : children ≠ [] := List.ne_nil_of_length_pos (by omega)
  refine ⟨children.getLast notEmpty, List.getLast?_eq_some_getLast notEmpty, ?_⟩
  have set_ne : children.set position (children.getLast notEmpty) ≠ [] := by
    rw [Ne, List.set_eq_nil_iff]
    exact notEmpty
  have isLast : (children.set position (children.getLast notEmpty)).getLast set_ne =
      children.getLast notEmpty := by
    rw [List.getLast_eq_getElem, List.getElem_set]
    split
    · rfl
    · simp [List.getLast_eq_getElem]
  rw [Tree.moveLast, List.getLast?_eq_some_getLast notEmpty]
  dsimp only
  conv_lhs => rw [← List.dropLast_append_getLast set_ne, isLast]

theorem Tree.length_moveLast {children : List Child} {position : Nat}
    (inside : position < children.length) :
    (Tree.moveLast children position).length = children.length - 1 := by
  obtain ⟨last, -, concat⟩ := Tree.moveLast_concat inside
  have lengths := congrArg List.length concat
  rw [List.length_set, List.length_append, List.length_singleton] at lengths
  omega

theorem Tree.mem_of_mem_moveLast {children : List Child} {position : Nat}
    (inside : position < children.length) {child : Child}
    (member : child ∈ Tree.moveLast children position) : child ∈ children :=
  (Tree.WellFormed.perm_moveLast (List.getElem?_eq_getElem inside)).mem_iff.mpr (List.mem_cons_of_mem _ member)

theorem Beside.append {geometry : Geometry} {inode : Nat} {first second third : Disk}
    (earlier : Beside geometry inode chain first second)
    (later : Beside geometry inode chain second third) :
    Beside geometry inode chain first third := by
  rw [← Function.update_eq_self inode chain] at later
  exact earlier.trans later

theorem Refilled.of_cut {inode : Nat} {disk cut : Disk} {content : Bytes} {padding kept : Nat}
    (ledger : Ledger volume.geometry disk chain) (beside : Beside volume.geometry inode chain before disk)
    (stream : disk.stream (chain inode) = content ++ .zeros padding)
    (isKept : kept = volume.geometry.blocksFor content.length) (fits : kept ≤ (chain inode).length)
    (ledger' : Ledger volume.geometry cut (update chain inode ((chain inode).take kept)))
    (beside' : Beside volume.geometry inode chain disk cut) (payload : cut.payload = disk.payload) :
    Refilled volume.geometry chain inode content before ((chain inode).take kept) cut := by
  have length : ((chain inode).take kept).length = kept := by
    rw [List.length_take, Nat.min_eq_left fits]
  have lengths : ∀ block ∈ chain inode, (disk.payload block).length = volume.geometry.payloadSize :=
    fun block member => ledger.lengths block (ledger.isData inode block member)
  have whole := Disk.length_stream lengths
  rw [stream, List.length_append, Bytes.length_zeros] at whole
  have room := volume.geometry.le_blocksFor content.length
  rw [← isKept] at room
  have less := Nat.mul_le_mul_right volume.geometry.payloadSize fits
  refine ⟨ledger', beside.append beside', by rw [length, isKept], ?_⟩
  rw [Disk.stream_congr fun block _ => congrFun payload block, Disk.stream_take kept lengths, length,
    stream, List.take_append, List.take_of_length_le room, Bytes.take_zeros]
  congr 2
  omega

namespace Stored

variable {parent position : Nat} {children : List Child}

theorem moveEntry_leads (stored : Stored volume.geometry before tree chain)
    (body : (tree parent).body = .directory children) (inside : position < children.length) :
    ∃ last moved, children.set position last = Tree.moveLast children position ++ [last] ∧
      last ∈ children ∧
      (position ≠ children.length - 1 →
        Leads volume (volume.writeChain (chain parent) (position * recordLength)
          ((recordsOf children).getLastD [])) before (.ok ()) moved) ∧
      (position = children.length - 1 → moved = before) ∧
      Ledger volume.geometry moved chain ∧ Beside volume.geometry parent chain before moved ∧
      moved.stream (chain parent) =
        (children.set position last).flatMap (·.entry.record) ++
          .zeros ((chain parent).length * volume.geometry.payloadSize - children.length * 256) := by
  obtain ⟨last, isLast, concat⟩ := Tree.moveLast_concat inside
  have member : last ∈ children := List.mem_of_getLast? isLast
  have lengths (child : Child) (member : child ∈ children) := stored.length_record body member
  have capacity := stored.stored_le parent
  rw [stored.length_stored body] at capacity
  have stream := stored.stream parent
  rw [stored.length_stored body, Node.stored_of_directory body] at stream
  have isRecordLength : recordLength = 256 := rfl
  have lastRecord : (recordsOf children).getLastD [] = last.entry.record := by
    rw [recordsOf, List.getLastD_eq_getLast?, List.getLast?_map, isLast]
    rfl
  by_cases same : position = children.length - 1
  · refine ⟨last, before, concat, member, absurd same, fun _ => rfl, stored.ledger, .refl .., ?_⟩
    have unchanged : children.set position last = children := by
      rw [List.getLast?_eq_getElem?, ← same, List.getElem?_eq_getElem inside] at isLast
      cases isLast
      exact List.set_getElem_self inside
    rw [stream, unchanged]
  · have fits : position * 256 + 256 ≤ (chain parent).length * volume.geometry.payloadSize := by
      rw [← Nat.succ_mul]
      exact Nat.le_trans (Nat.mul_le_mul_right 256 inside) capacity
    obtain ⟨writes, ledger, beside, stream'⟩ :=
      @Volume.writeStream_leads volume before chain parent (position * 256) last.entry.record
        stored.ledger (stored.not_anchor body) (by rwa [lengths last member])
    rw [stream, Bytes.overlay_flatMap inside lengths (lengths last member)] at stream'
    refine ⟨last, _, concat, member, fun _ => ?_, (absurd · same), ledger, beside, stream'⟩
    rw [lastRecord, isRecordLength]
    exact writes

/-- Taking an entry out of a directory moves the last one into its place. -/
theorem takeEntry_leads (stored : Stored volume.geometry before tree chain)
    (body : (tree parent).body = .directory children) (inside : position < children.length) :
    ∃ moved cleared after blocks,
      (position ≠ children.length - 1 →
        Leads volume (volume.writeChain (chain parent) (position * recordLength)
          ((recordsOf children).getLastD [])) before (.ok ()) moved) ∧
      (position = children.length - 1 → moved = before) ∧
      Leads volume (volume.writeChain (chain parent) ((children.length - 1) * recordLength)
        (.zeros recordLength)) moved (.ok ()) cleared ∧
      Leads volume (volume.shrinkChain (chain parent) (children.length * 256 - recordLength)) cleared
        (.ok (.ok (), blocks)) after ∧
      blocks <+: chain parent ∧
      Refilled volume.geometry chain parent
        ((Tree.moveLast children position).flatMap (·.entry.record)) before blocks after := by
  have notAnchor := stored.not_anchor body
  have lengths (child : Child) (member : child ∈ children) := stored.length_record body member
  have capacity := stored.stored_le parent
  rw [stored.length_stored body] at capacity
  obtain ⟨last, moved, concat, member, moves, stays, ledger, beside, stream⟩ :=
    stored.moveEntry_leads body inside
  generalize Tree.moveLast children position = front at concat ⊢
  have count : front.length + 1 = children.length := by
    have lengthSet : (children.set position last).length = children.length := List.length_set
    rw [← lengthSet, concat, List.length_append]
    rfl
  have frontLengths : ∀ child ∈ front, child.entry.record.length = 256 := by
    intro child inFront
    have inSet : child ∈ children.set position last := concat ▸ List.mem_append_left _ inFront
    rcases List.mem_or_eq_of_mem_set inSet with old | rfl
    · exact lengths child old
    · exact lengths child member
  have frontLength : (front.flatMap (·.entry.record)).length = front.length * 256 :=
    length_flatMap_records frontLengths
  have fits : front.length * 256 + 256 ≤ (chain parent).length * volume.geometry.payloadSize := by
    rw [← Nat.succ_mul]
    exact Nat.le_trans (Nat.mul_le_mul_right 256 (Nat.le_of_eq count)) capacity
  let cleared := moved.overwrite volume.geometry (chain parent) (front.length * 256) (.zeros 256)
  obtain ⟨clears, ledger', beside', stream'⟩ :=
    @Volume.writeStream_leads volume moved chain parent (front.length * 256) (.zeros 256) ledger
      notAnchor (by rwa [Bytes.length_zeros])
  rw [stream, concat, Bytes.overlay_last frontLengths (lengths last member)] at stream'
  obtain ⟨after, shrinks, ledger'', beside'', payload⟩ :=
    Volume.shrinkChain_leads (front.length * 256) ledger' notAnchor
  have fewer : volume.geometry.blocksFor (front.length * 256) ≤ (chain parent).length := by
    rw [stored.length, stored.length_stored body]
    exact volume.geometry.blocksFor_mono (Nat.mul_le_mul_right 256 (by omega))
  have isRecordLength : recordLength = 256 := rfl
  refine ⟨moved, cleared, after, _, moves, stays, ?_, ?_, List.take_prefix .., Refilled.of_cut ledger'
    (beside.append beside') stream' (by rw [frontLength]) fewer ledger'' beside'' payload⟩
  · rw [isRecordLength, show children.length - 1 = front.length by omega]
    exact clears
  · rw [isRecordLength, show children.length * 256 - 256 = front.length * 256 by omega]
    exact shrinks

end Stored

/-! Removing -/

def Tree.remove (tree : Tree) (path : String) : Except FsError Unit × Tree :=
  match Path.splitLast path with
  | .error error => (.error error, tree)
  | .ok (parents, name) =>
      match tree.directory? parents with
      | none => (.error (.noSuchFile path), tree)
      | some (parent, children) =>
          match tree.child? parent name with
          | none => (.error (.noSuchFile path), tree)
          | some target =>
              if (tree target).children ≠ [] then (.error .directoryNotEmpty, tree)
              else (.ok (), tree.leave parent (children.findIdx (·.name = name)) target)

namespace Volume

variable (volume : Volume)

def removeEntry (path : String) (parent : Inode) (parentNumber : Nat) (listing : Listing)
    (slot : Nat) : Update Unit := do
  let entry ← listing.decode slot
  let number := entry.inode.toNat
  if InodeNumber.isReserved number then throw (.noSuchFile path)
  let target ← volume.getInode number
  if target.isDirectory ∧ 0 < target.size then throw .directoryNotEmpty
  if target.firstBlock ≠ 0 then
    let _ ← volume.freeChain target.firstBlock.toNat
  volume.emptyInode number
  let last := listing.records.length - 1
  if slot ≠ last then
    volume.writeChain listing.chain (slot * recordLength) (listing.records.getLastD [])
  volume.writeChain listing.chain (last * recordLength) (.zeros recordLength)
  let size := parent.size.toNat - recordLength
  let (outcome, chain) ← volume.shrinkChain listing.chain size
  outcome
  volume.putInode parentNumber
    { parent with size := UInt64.ofNat size, firstBlock := UInt64.ofNat (chain.headD 0) }

def removeLocked (path : String) (parents : List String) (name : String) : Update Unit := do
  let (parent, parentNumber) ← volume.walkFromRoot path parents
  if !parent.isDirectory then throw (.noSuchFile path)
  let listing ← volume.readListing parent
  match listing.find? name with
  | none => throw (.noSuchFile path)
  | some slot => volume.removeEntry path parent parentNumber listing slot

set_option maxRecDepth 4096 in
theorem remove_eq (path : String) :
    volume.remove path = (do
      let (parents, name) ← Path.splitLast path
      volume.withDirectoryLock .exclusive (volume.removeLocked path parents name)) := by
  unfold remove removeLocked removeEntry
  refine congrArg _ (funext fun split => ?_)
  rfl

end Volume

theorem Tree.vacate_leave {parent position target : Nat} (different : target ≠ parent) :
    tree.leave parent position target =
      update (tree.vacate target) parent
        { tree parent with body := .directory (moveLast (tree parent).children position) } := by
  rw [leave, vacate]
  exact (Function.update_comm different ..).symm

namespace Represents

variable {parent position : Nat} {children : List Child} {child : Child}

theorem vacate_leads (represents : Represents volume.geometry before tree chain) {target : Nat}
    (free : InodeNumber.firstFree ≤ target) (inside : target < volume.geometry.inodeCount) :
    ∃ freed after,
      (((tree target).inode (chain target)).firstBlock ≠ 0 →
        ∃ count, Leads volume
          (volume.freeChain ((tree target).inode (chain target)).firstBlock.toNat) before (.ok count)
          freed) ∧
      (((tree target).inode (chain target)).firstBlock = 0 → freed = before) ∧
      Leads volume (volume.emptyInode target) freed (.ok ()) after ∧
      Stored volume.geometry after (tree.vacate target) (update chain target []) ∧
      after.counter .nextFreeInode =
        ((tree.vacate target).vacancy volume.geometry.inodeCount).getD 0 ∧
      Bitmap.SameFrom volume.geometry.blocks before.bitmap after.bitmap := by
  have notAnchor : target ≠ InodeNumber.anchor := Nat.ne_of_gt free
  have stored := represents.stored
  have firstBlock := stored.firstBlock_toNat target
  obtain ⟨freed, frees, stays, ledger, beside⟩ : ∃ freed,
      (((tree target).inode (chain target)).firstBlock ≠ 0 →
        ∃ count, Leads volume
          (volume.freeChain ((tree target).inode (chain target)).firstBlock.toNat) before (.ok count)
          freed) ∧
      (((tree target).inode (chain target)).firstBlock = 0 → freed = before) ∧
      Ledger volume.geometry freed (update chain target []) ∧
      Beside volume.geometry target chain before freed := by
    rw [firstBlock]
    cases blocks : chain target with
    | nil =>
        rw [blocks] at firstBlock
        have none : ((tree target).inode []).firstBlock = 0 := UInt64.toNat_inj.mp firstBlock
        refine ⟨before, absurd none, fun _ => rfl, ?_, .refl ..⟩
        rw [← blocks, Function.update_eq_self]
        exact stored.ledger
    | cons first rest =>
        have some : chain target ≠ [] := by simp [blocks]
        obtain ⟨freed, frees, ledger, beside⟩ := Volume.freeChain_leads stored.ledger notAnchor some
        rw [blocks] at frees firstBlock
        refine ⟨freed, fun _ => ⟨_, frees⟩, fun none => ?_, ledger, beside⟩
        rw [none] at firstBlock
        have isData := stored.ledger.isData target first (blocks ▸ List.mem_cons_self)
        exact absurd firstBlock.symm (volume.geometry.ne_zero_of_isData isData)
  have record : freed.record target = ((tree target).inode (chain target)).record := by
    rw [beside.record]
    exact stored.record target inside
  have empties := Volume.emptyInode_leads free inside (stored.fits target) record
  have refilled : Refilled volume.geometry chain target [] before [] freed := by
    refine ⟨ledger, beside, ?_, ?_⟩
    · exact volume.geometry.blocksFor_zero.symm
    · rw [List.length_nil, Nat.zero_mul, Nat.zero_sub]
      rfl
  have replaced := @Stored.replace volume before freed tree chain stored target
    (.vacant ((tree target).generation + 1)) [] inside notAnchor
    ⟨by simp [Node.vacant], Nat.zero_le _⟩ (fun _ member => by cases member) refilled
  have cursor : lowered (freed.counter .nextFreeInode) target =
      ((tree.vacate target).vacancy volume.geometry.inodeCount).getD 0 := by
    rw [beside.slotCursor, represents.slotCursor, Tree.vacancy_vacate free inside]
  rw [cursor] at empties
  exact ⟨freed, _, frees, stays, empties, replaced.withSlotCursor _, by simp, beside.spare⟩

theorem takeEntry_leads {target : Nat} (represents : Represents volume.geometry before tree chain)
    (body : (tree parent).body = .directory children) (inside : position < children.length)
    (different : target ≠ parent) {emptied : Disk} {blocks : List Nat}
    (stored : Stored volume.geometry emptied (tree.vacate target) (update chain target blocks)) :
    ∃ after kept,
      Leads volume (do
        let last := (recordsOf children).length - 1
        if position ≠ last then
          volume.writeChain (chain parent) (position * recordLength) ((recordsOf children).getLastD [])
        volume.writeChain (chain parent) (last * recordLength) (.zeros recordLength)
        let size := ((tree parent).inode (chain parent)).size.toNat - recordLength
        let (outcome, kept) ← volume.shrinkChain (chain parent) size
        outcome
        volume.putInode parent { (tree parent).inode (chain parent) with
          size := UInt64.ofNat size
          firstBlock := UInt64.ofNat (kept.headD 0) }) emptied (.ok ()) after ∧
      kept <+: chain parent ∧
      Stored volume.geometry after (tree.leave parent position target)
        (update (update chain target blocks) parent kept) ∧
      after.counter .nextFreeInode = emptied.counter .nextFreeInode ∧
      Bitmap.SameFrom volume.geometry.blocks emptied.bitmap after.bitmap := by
  let moved := Tree.moveLast children position
  let node : Node := { tree parent with body := .directory moved }
  have insideParent := represents.inside_of_directory body
  have notAnchor := represents.stored.not_anchor body
  have parentStays : tree.vacate target parent = tree parent :=
    Function.update_of_ne (Ne.symm different) ..
  have chainStays : update chain target blocks parent = chain parent :=
    Function.update_of_ne (Ne.symm different) ..
  have body' : (tree.vacate target parent).body = .directory children := by
    rw [parentStays, body]
  obtain ⟨shifted, cleared, cut, kept, moves, stays, clears, shrinks, front, refilled⟩ :=
    stored.takeEntry_leads body' inside
  rw [chainStays] at moves clears shrinks front
  have count : (recordsOf children).length = children.length := by simp [recordsOf]
  have size : ((tree parent).inode (chain parent)).size.toNat - recordLength =
      children.length * 256 - recordLength := by
    rw [represents.stored.size_toNat, represents.stored.length_stored body]
  have nodeSize : node.stored.length = children.length * 256 - recordLength := by
    have lengths : ∀ child ∈ moved, child.entry.record.length = 256 := fun child member =>
      represents.stored.length_record body (Tree.mem_of_mem_moveLast inside member)
    have isBytes : node.stored = moved.flatMap (·.entry.record) := rfl
    rw [isBytes, length_flatMap_records lengths, Tree.length_moveLast inside, Nat.sub_mul]
  have replaced := @Stored.replace volume emptied cut (tree.vacate target) _ stored parent node kept
    insideParent notAnchor (represents.stored.fits parent) (fun child member =>
      represents.stored.child_fits body (Tree.mem_of_mem_moveLast inside member)) refilled
  have isTree : update (tree.vacate target) parent node = tree.leave parent position target := by
    rw [Tree.vacate_leave different, Node.children_of_directory body]
  rw [isTree] at replaced
  refine ⟨_, kept, ?_, front, replaced, refilled.beside.slotCursor, refilled.beside.spare⟩
  have isInode : ({ (tree parent).inode (chain parent) with
      size := UInt64.ofNat (children.length * 256 - recordLength)
      firstBlock := UInt64.ofNat (kept.headD 0) } : Inode) = node.inode kept := by
    rw [← nodeSize]
    simp [Node.inode, node, body, Body.kind]
  have ends : Leads volume (do
      volume.writeChain (chain parent) ((children.length - 1) * recordLength) (.zeros recordLength)
      let (outcome, kept) ← volume.shrinkChain (chain parent) (children.length * 256 - recordLength)
      outcome
      volume.putInode parent { (tree parent).inode (chain parent) with
        size := UInt64.ofNat (children.length * 256 - recordLength)
        firstBlock := UInt64.ofNat (kept.headD 0) }) shifted (.ok ())
        { cut with record := update cut.record parent (node.inode kept).record } := by
    refine clears.bind (shrinks.bind (Leads.bind (Leads.except rfl) ?_))
    rw [isInode]
    exact Volume.putInode_leads insideParent (represents.stored.fits parent)
  rw [size, count]
  dsimp only at ends ⊢
  by_cases same : position = children.length - 1
  · rw [stays same] at ends
    exact Leads.ite_neg (not_not.mpr same) ends
  · exact Leads.ite_pos same ((moves same).bind ends)

theorem not_inUse (represents : Represents volume.geometry before tree chain) {target : Nat}
    (leaf : (tree target).children = []) :
    ¬ (((tree target).inode (chain target)).isDirectory = true ∧
      0 < ((tree target).inode (chain target)).size) := by
  rintro ⟨isDirectory, used⟩
  rw [Node.isDirectory_inode, leaf, decide_eq_true_eq] at isDirectory
  have none : ((tree target).inode (chain target)).size = 0 := by
    apply UInt64.toNat_inj.mp
    rw [represents.stored.size_toNat, represents.stored.length_stored isDirectory]
    rfl
  rw [none] at used
  exact absurd used (by decide)

theorem inUse (represents : Represents volume.geometry before tree chain) {target : Nat}
    (some : (tree target).children ≠ []) :
    ((tree target).inode (chain target)).isDirectory = true ∧
      0 < ((tree target).inode (chain target)).size := by
  obtain ⟨child, member⟩ := List.exists_mem_of_ne_nil _ some
  have body := Node.directory_of_mem_children member
  refine ⟨isDirectory_inode body, ?_⟩
  rw [UInt64.lt_iff_toNat_lt, represents.stored.size_toNat, represents.stored.length_stored body]
  exact Nat.mul_pos (List.length_pos_of_mem member) (by decide)

/-- Removing the entry of a child, up to what depends on whether the child is in use. -/
theorem removeEntry_begins (represents : Represents volume.geometry before tree chain)
    (body : (tree parent).body = .directory children) (isChild : children[position]? = some child)
    {path : String} {answer : Except FsError Unit}
    (rest : Leads volume (do
      if ((tree child.inode).inode (chain child.inode)).isDirectory ∧
          0 < ((tree child.inode).inode (chain child.inode)).size then
        throw .directoryNotEmpty
      if ((tree child.inode).inode (chain child.inode)).firstBlock ≠ 0 then
        let _ ← volume.freeChain ((tree child.inode).inode (chain child.inode)).firstBlock.toNat
      volume.emptyInode child.inode
      let last := (recordsOf children).length - 1
      if position ≠ last then
        volume.writeChain (chain parent) (position * recordLength) ((recordsOf children).getLastD [])
      volume.writeChain (chain parent) (last * recordLength) (.zeros recordLength)
      let size := ((tree parent).inode (chain parent)).size.toNat - recordLength
      let (outcome, kept) ← volume.shrinkChain (chain parent) size
      outcome
      volume.putInode parent { (tree parent).inode (chain parent) with
        size := UInt64.ofNat size
        firstBlock := UInt64.ofNat (kept.headD 0) }) before answer after) :
    Leads volume (volume.removeEntry path ((tree parent).inode (chain parent)) parent
      { chain := chain parent, records := recordsOf children } position) before answer after := by
  have member : child ∈ (tree parent).children := by
    rw [Node.children_of_directory body]
    exact List.mem_of_getElem? isChild
  have number : child.entry.inode.toNat = child.inode :=
    represents.stored.entry_inode body (List.mem_of_getElem? isChild)
  obtain ⟨inside, free, -⟩ := represents.child_inside member
  have first : InodeNumber.firstFree = 2 := rfl
  refine (Leads.except (represents.stored.decode_records body _ isChild)).bind ?_
  rw [number]
  refine Leads.ite_neg ?_ ?_
  · simp only [InodeNumber.isReserved, decide_eq_true_eq]
    omega
  dsimp only at rest ⊢
  exact (Leads.query (represents.stored.getInode_answers inside)).bind rest

theorem removeEntry_leads (represents : Represents volume.geometry before tree chain)
    (body : (tree parent).body = .directory children) (isChild : children[position]? = some child)
    (leaf : (tree child.inode).children = []) (path : String) :
    ∃ after kept,
      Leads volume (volume.removeEntry path ((tree parent).inode (chain parent)) parent
        { chain := chain parent, records := recordsOf children } position) before (.ok ()) after ∧
      Represents volume.geometry after (tree.leave parent position child.inode)
        (update (update chain child.inode []) parent kept) ∧
      kept <+: chain parent ∧
      Bitmap.SameFrom volume.geometry.blocks before.bitmap after.bitmap := by
  have member : child ∈ (tree parent).children := by
    rw [Node.children_of_directory body]
    exact List.mem_of_getElem? isChild
  obtain ⟨inside, free, -⟩ := represents.child_inside member
  have different : child.inode ≠ parent := by
    intro same
    rw [same] at leaf
    rw [leaf] at member
    cases member
  -- the slot is emptied first, and the entry is taken out on the disk that this leaves
  obtain ⟨freed, emptied, frees, stays, empties, stored, cursor, spare⟩ :=
    represents.vacate_leads free inside
  obtain ⟨after, kept, takes, front, stored', cursor', spare'⟩ := represents.takeEntry_leads body
    (List.getElem?_eq_some_iff.mp isChild).1 different stored
  refine ⟨after, kept, removeEntry_begins represents body isChild ?_, ⟨stored', ?_, ?_⟩, front,
    spare.trans spare'⟩
  · refine Leads.ite_neg (represents.not_inUse leaf) ?_
    dsimp only at takes ⊢
    by_cases none : ((tree child.inode).inode (chain child.inode)).firstBlock = 0
    · rw [stays none] at empties
      exact Leads.ite_neg (not_not.mpr none) (empties.bind takes)
    · obtain ⟨count, frees⟩ := frees none
      exact Leads.ite_pos none (frees.bind (empties.bind takes))
  · exact represents.wellFormed.leave body isChild leaf
  · rw [cursor', cursor]
    congr 1
    refine (Tree.vacancy_congr (fun node => ?_) _).symm
    rw [Tree.isLive_vacate]
    by_cases same : node = child.inode
    · subst same
      rw [Tree.WellFormed.leave_target]
      simp [Node.IsLive, Node.vacant]
    · rw [Tree.WellFormed.isLive_leave body same]
      simp [same]

/-- The walk to a parent and the reading of its entries. -/
theorem removeLocked_begins (represents : Represents volume.geometry before tree chain)
    {parents : List String} (found : tree.directory? parents = some (parent, children))
    {path name : String} {answer : Except FsError Unit}
    (rest : Leads volume (match children.findIdx? (·.name = name) with
      | none => throw (.noSuchFile path)
      | some slot => volume.removeEntry path ((tree parent).inode (chain parent)) parent
          { chain := chain parent, records := recordsOf children } slot) before answer after) :
    Leads volume (volume.removeLocked path parents name) before answer after := by
  have body := (Tree.directory?_eq_some.mp found).2
  refine Leads.bind (Leads.query (represents.walk_directory found path)) ?_
  refine Leads.ite_neg (by simp [isDirectory_inode body]) ?_
  refine (Leads.query (represents.stored.readListing_answers body)).bind ?_
  rw [represents.stored.find?_records body]
  exact rest

theorem removeLocked_leaves (represents : Represents volume.geometry before tree chain)
    (path : String) {parents : List String} {name : String}
    (found : tree.directory? parents = some (parent, children))
    (isPosition : children.findIdx? (·.name = name) = some position)
    (isChild : children[position]? = some child) (leaf : (tree child.inode).children = []) :
    ∃ after kept,
      Leads volume (volume.removeLocked path parents name) before (.ok ()) after ∧
      Represents volume.geometry after (tree.leave parent position child.inode)
        (update (update chain child.inode []) parent kept) ∧
      kept <+: chain parent ∧
      Bitmap.SameFrom volume.geometry.blocks before.bitmap after.bitmap := by
  have body := (Tree.directory?_eq_some.mp found).2
  obtain ⟨after, kept, removes, facts⟩ := represents.removeEntry_leads body isChild leaf path
  refine ⟨after, kept, represents.removeLocked_begins found ?_, facts⟩
  rw [isPosition]
  exact removes

theorem removeLocked_does (represents : Represents volume.geometry before tree chain) (path : String)
    {parents : List String} {name : String}
    (split : Path.splitLast path = .ok (parents, name)) :
    Does volume (volume.removeLocked path parents name) before (tree.remove path) := by
  rw [Tree.remove, split]
  dsimp only
  cases found : tree.directory? parents with
  | none =>
      refine .unchanged represents ?_
      rcases represents.missing_directory found path with walks | ⟨inode, number, notDirectory, walks⟩
      · exact Leads.bind_error (Leads.query walks)
      · refine Leads.bind (Leads.query walks) ?_
        exact Leads.ite_pos (by simp [notDirectory]) (Leads.throw _).bind_error
  | some found' =>
      obtain ⟨parent, children⟩ := found'
      have body := (Tree.directory?_eq_some.mp found).2
      dsimp only
      have isChild? : tree.child? parent name =
          ((children.findIdx? (·.name = name)).bind fun position =>
            children[position]?).map Child.inode := by
        rw [Tree.child?, Node.children_of_directory body,
          List.find?_eq_bind_findIdx?_getElem?]
      cases position : children.findIdx? (·.name = name) with
      | none =>
          rw [position] at isChild?
          rw [isChild?]
          refine .unchanged represents (represents.removeLocked_begins found ?_)
          rw [position]
          exact .throw _
      | some slot =>
          obtain ⟨inside, -⟩ := List.findIdx?_eq_some_iff_getElem.mp position
          have isChild : children[slot]? = some children[slot] := List.getElem?_eq_getElem inside
          rw [position] at isChild?
          rw [isChild?, Option.bind_some, isChild]
          have isSlot : children.findIdx (·.name = name) = slot :=
            (List.findIdx?_eq_some_iff_findIdx_eq.mp position).2
          dsimp only [Option.map_some]
          by_cases leaf : (tree children[slot].inode).children = []
          · rw [if_neg (not_not.mpr leaf), isSlot]
            obtain ⟨after, kept, removes, represents', -⟩ :=
              represents.removeLocked_leaves path found position isChild leaf
            exact ⟨after, _, removes, represents', fun _ impossible => by cases impossible⟩
          · rw [if_pos leaf]
            refine .unchanged represents (represents.removeLocked_begins found ?_)
            rw [position]
            refine removeEntry_begins represents body isChild ?_
            exact Leads.ite_pos (represents.inUse leaf) (Leads.throw _).bind_error

end Represents

end ImageFs
