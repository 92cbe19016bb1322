import ImageFs.Proofs.Undoing

/-!
What is read under a path. Main statements: making a file and filling it change what is read under its
own path and nothing else.
-/

namespace ImageFs

open Represents (resolved)

/-- What is read from a node, from its start to its end. -/
def Node.content (node : Node) : Except FsError Bytes :=
  match node.body with
  | .directory _ => .error .isDirectory
  | _ => .ok node.stored

namespace Tree

variable {tree tree' : Tree} {slots : Nat} {path other : String} {names : List String}

/-- What is read under a path. -/
def contentAt (tree : Tree) (path : String) : Except FsError Bytes :=
  match resolved tree path with
  | .error error => .error error
  | .ok node => (tree node).content

/-! Reading -/

theorem resolved_eq_ok_iff {node : Nat} : resolved tree path = .ok node ↔
    ∃ names, Path.components path = .ok names ∧ tree.resolve names = some node := by
  rw [resolved]
  cases Path.components path with
  | error error => simp
  | ok names => cases leads : tree.resolve names <;> simp [leads]

theorem contentAt_of_file {node : Nat} {content : Bytes} (found : resolved tree path = .ok node)
    (body : (tree node).body = .file content) : tree.contentAt path = .ok content := by
  simp [contentAt, found, Node.content, Node.stored, body, Body.stored]

/-- Why a path does not open is why nothing is read under it. -/
theorem contentAt_of_opened_error {mode : AccessMode} {error : FsError}
    (fails : tree.opened path mode = .error error) : tree.contentAt path = .error error := by
  unfold opened at fails
  unfold contentAt Node.content
  cases found : resolved tree path with
  | error error' => simpa [found] using fails
  | ok node => cases body : (tree node).body <;> simp_all

/-- A file that has been opened stands at the start of what is read under its path. -/
theorem WellFormed.contentAt_of_opened (wellFormed : tree.WellFormed slots) {mode : AccessMode}
    {file : OpenFile} (opened : tree.opened path mode = .ok file) : ∃ content,
      tree.contentOf file = some content ∧ tree.contentAt path = .ok content ∧
      resolved tree path = .ok file.inode ∧ file.offset = 0 ∧ file.mode = mode := by
  unfold Tree.opened at opened
  cases found : resolved tree path with
  | error error =>
      rw [found] at opened
      cases opened
  | ok node =>
      rw [found] at opened
      cases body : (tree node).body with
      | vacant => exact absurd body (wellFormed.resolved_live found).1
      | directory children =>
          simp only [body] at opened
          cases opened
      | file content =>
          simp only [body] at opened
          cases opened
          refine ⟨content, contentOf_eq_some.mpr ⟨body, rfl⟩, ?_, rfl, rfl, rfl⟩
          exact contentAt_of_file found body

/-! Changes -/

/-- What is read under a path depends on the node that it leads to. -/
theorem contentAt_congr (same : ∀ names, Path.components path = .ok names →
    tree'.resolve names = tree.resolve names ∧
      ∀ node, tree.resolve names = some node → (tree' node).content = (tree node).content) :
    tree'.contentAt path = tree.contentAt path := by
  unfold contentAt resolved
  cases components : Path.components path with
  | error error => rfl
  | ok names =>
      obtain ⟨sameNode, sameContent⟩ := same names components
      dsimp only
      rw [sameNode]
      cases leads : tree.resolve names with
      | none => rfl
      | some node => exact sameContent node leads

/-- Names lead where they led, unless they lead to a new node. -/
theorem WellFormed.resolve_eq (wellFormed : tree.WellFormed slots)
    (wellFormed' : tree'.WellFormed slots) (ages : tree.Ages tree' [])
    (known : ∀ node, tree'.resolve names = some node → (tree node).IsLive) :
    tree'.resolve names = tree.resolve names := by
  cases leads : tree.resolve names with
  | some node => exact ages.path leads (by simp)
  | none =>
      cases leads' : tree'.resolve names with
      | none => rfl
      | some node =>
          obtain ⟨children, body⟩ := wellFormed'.rootBody
          obtain ⟨-, notAnchor⟩ :=
            wellFormed'.follow_live (Node.isLive_of_directory body) (by decide) leads'
          obtain ⟨others, leadsOthers⟩ := wellFormed.exists_resolve (known node leads') notAnchor
          have same := wellFormed'.resolve_inj leads' (ages.path leadsOthers (by simp))
          rw [same, leadsOthers] at leads
          cases leads

section Create

variable {geometry : Geometry} {free slot : Nat} {kind : FileKind}
  (wellFormed' : tree'.WellFormed slots)
  (creates : tree.create geometry free path kind = (.ok slot, tree'))

include wellFormed' creates

/-- A new node is entered into a directory, and its path leads to it. -/
theorem WellFormed.enters_of_create : ∃ parent children name,
    (tree parent).body = .directory children ∧ ¬ (tree slot).IsLive ∧
      tree' = tree.enter parent slot name kind ∧ resolved tree' path = .ok slot := by
  obtain ⟨parents, name, parent, children, split, found, new, vacancy, enough⟩ :=
    of_create_ok (congrArg Prod.fst creates)
  obtain ⟨leads, body⟩ := directory?_eq_some.mp found
  have vacant := (not_isLive_of_vacancy vacancy).2.2
  have different : slot ≠ parent := fun same => vacant (same ▸ Node.isLive_of_directory body)
  obtain rfl : tree.enter parent slot name kind = tree' := by
    have isNew : name ∉ children.map Child.name := by
      rw [← Node.children_of_directory body]
      exact child?_eq_none.mp new
    simpa [create_of_directory split found, isNew, vacancy, Nat.not_lt.mpr enough] using creates
  refine ⟨parent, children, name, body, vacant, rfl, resolved_eq_ok_iff.mpr ⟨parents ++ [name], ?_, ?_⟩⟩
  · exact Path.components_of_splitLast split
  · have member : ⟨name, slot⟩ ∈ (tree.enter parent slot name kind parent).children :=
      (mem_children_enter vacant different).mpr (.inr ⟨rfl, rfl⟩)
    rw [resolve_concat, (Ages.enter wellFormed' body vacant).path leads (by simp)]
    exact wellFormed'.child?_of_mem member

/-- Where a new node has been made, the same is read under the other paths. -/
theorem WellFormed.contentAt_create (wellFormed : tree.WellFormed slots)
    (elsewhere : Path.components other ≠ Path.components path) :
    tree'.contentAt other = tree.contentAt other := by
  obtain ⟨parent, children, name, body, vacant, rfl, isNew⟩ := wellFormed'.enters_of_create creates
  obtain ⟨namesNew, componentsNew, leadsNew⟩ := resolved_eq_ok_iff.mp isNew
  have different : slot ≠ parent := fun same => vacant (same ▸ Node.isLive_of_directory body)
  have ages := Ages.enter wellFormed' body vacant
  apply contentAt_congr
  intro names components
  have notSlot {node : Nat} (leads : (tree.enter parent slot name kind).resolve names = some node) :
      node ≠ slot := by
    rintro rfl
    obtain rfl := wellFormed'.resolve_inj leads leadsNew
    exact elsewhere (components.trans componentsNew.symm)
  constructor
  · apply wellFormed.resolve_eq wellFormed' ages
    intro node leads
    exact (isLive_enter body (notSlot leads)).mp (wellFormed'.resolve_live leads)
  · intro node leads
    have notSlot := notSlot (ages.path leads (by simp))
    by_cases isParent : node = parent
    · subst isParent
      rw [enter_parent different, Node.content, Node.content, body]
    · rw [enter_of_ne notSlot isParent]

end Create

section SetContent

variable {node : Nat} {content : Bytes} (wellFormed : tree.WellFormed slots)
  (wellFormed' : (tree.setContent node content).WellFormed slots)
  (found : resolved tree path = .ok node) {before : Bytes} (body : (tree node).body = .file before)

include found body

theorem contentAt_setContent_self : (tree.setContent node content).contentAt path = .ok content := by
  obtain ⟨names, components, leads⟩ := resolved_eq_ok_iff.mp found
  have leads' := (Ages.setContent body content).path leads (by simp)
  have found' := resolved_eq_ok_iff.mpr ⟨names, components, leads'⟩
  exact contentAt_of_file found' (by simp [setContent])

include wellFormed wellFormed'

theorem WellFormed.contentAt_setContent_of_ne
    (elsewhere : Path.components other ≠ Path.components path) :
    (tree.setContent node content).contentAt other = tree.contentAt other := by
  obtain ⟨names, components, leads⟩ := resolved_eq_ok_iff.mp found
  refine contentAt_congr fun names' components' => ⟨?_, fun node' leads' => ?_⟩
  · refine wellFormed.resolve_eq wellFormed' (.setContent body content) fun node' leads' => ?_
    exact (isLive_setContent body node').mp (wellFormed'.resolve_live leads')
  · have different : node' ≠ node := by
      rintro rfl
      obtain rfl := wellFormed.resolve_inj leads leads'
      exact elsewhere (components'.trans components.symm)
    rw [setContent, Function.update_of_ne different]

end SetContent

end Tree

end ImageFs
