import Mathlib.Data.List.Induction
import ImageFs.Proofs.Represents

/-!
Names and the nodes that they lead to. Main statement: in a well-formed tree exactly one list of names
leads to each live node but the anchor.
-/

namespace ImageFs.Tree

variable {tree : Tree} {slots : Nat}

theorem follow_append (node : Nat) (names rest : List String) :
    tree.follow node (names ++ rest) = (tree.follow node names).bind (tree.follow · rest) := by
  induction names generalizing node with
  | nil => rfl
  | cons name names induction =>
      rw [List.cons_append, follow, follow]
      cases tree.child? node name with
      | none => rfl
      | some child => exact induction child

theorem resolve_concat (names : List String) (name : String) :
    tree.resolve (names ++ [name]) = (tree.resolve names).bind (tree.child? · name) := by
  rw [resolve, follow_append]
  refine congrArg (Option.bind _) (funext fun node => ?_)
  rw [follow]
  cases tree.child? node name <;> rfl

theorem child?_eq_none {directory : Nat} {name : String} :
    tree.child? directory name = none ↔ name ∉ (tree directory).children.map Child.name := by
  rw [child?, Option.map_eq_none_iff, List.find?_eq_none]
  simp only [decide_eq_true_eq, List.mem_map, not_exists, not_and]

namespace WellFormed

theorem live_of_child {directory : Nat} {child : Child}
    (member : child ∈ (tree directory).children) : (tree directory).IsLive :=
  Node.isLive_of_directory (Node.directory_of_mem_children member)

theorem not_anchor_of_child (wellFormed : tree.WellFormed slots) {directory : Nat} {child : Child}
    (member : child ∈ (tree directory).children) : directory ≠ InodeNumber.anchor := by
  rintro rfl
  rw [wellFormed.anchor] at member
  cases member

/-- Names lead to each live node but the anchor. -/
theorem exists_resolve (wellFormed : tree.WellFormed slots) {node : Nat} (live : (tree node).IsLive)
    (notAnchor : node ≠ InodeNumber.anchor) : ∃ names, tree.resolve names = some node := by
  obtain ⟨depth, deeper⟩ := wellFormed.depth
  generalize bound : depth node = level
  -- by the depth of the node: the directory that holds it lies strictly above
  induction level using Nat.strong_induction_on generalizing node with
  | _ level induction =>
      by_cases isRoot : node = InodeNumber.root
      · exact ⟨[], by rw [isRoot]; rfl⟩
      · have first : InodeNumber.firstFree = 2 := rfl
        have root : InodeNumber.root = 0 := rfl
        have anchor : InodeNumber.anchor = 1 := rfl
        obtain ⟨directory, child, member, rfl⟩ := wellFormed.linked node (by omega) live
        have above := deeper directory child member
        obtain ⟨names, leads⟩ := induction (depth directory) (by omega) (live_of_child member)
          (wellFormed.not_anchor_of_child member) rfl
        refine ⟨names ++ [child.name], ?_⟩
        rw [resolve_concat, leads]
        exact wellFormed.child?_of_mem member

/-- No two lists of names lead to the same node. -/
theorem resolve_inj (wellFormed : tree.WellFormed slots) {names names' : List String} {node : Nat}
    (leads : tree.resolve names = some node) (leads' : tree.resolve names' = some node) :
    names = names' := by
  have ends {names : List String} {name : String} {node : Nat}
      (leads : tree.resolve (names ++ [name]) = some node) : ∃ directory, ∃ child ∈
        (tree directory).children, tree.resolve names = some directory ∧ child.name = name ∧
          child.inode = node := by
    rw [resolve_concat, Option.bind_eq_some_iff] at leads
    obtain ⟨directory, leads, isChild⟩ := leads
    obtain ⟨child, member, isName, isNode⟩ := Represents.child_of_child? isChild
    exact ⟨directory, child, member, leads, isName, isNode⟩
  have rootless {names : List String} {name : String} {node : Nat} (empty : tree.resolve [] = some node)
      (leads : tree.resolve (names ++ [name]) = some node) : False := by
    obtain ⟨directory, child, member, -, -, isNode⟩ := ends leads
    have free := (wellFormed.child directory child member).1
    cases empty
    rw [isNode] at free
    exact absurd free (by decide)
  -- from the last name on: a node has one directory and one name in it, and the root has none
  induction names using List.reverseRecOn generalizing names' node with
  | nil =>
      rcases List.eq_nil_or_concat names' with rfl | ⟨front, last, rfl⟩
      · rfl
      · rw [List.concat_eq_append] at leads'
        exact (rootless leads leads').elim
  | append_singleton front last induction =>
      rcases List.eq_nil_or_concat names' with rfl | ⟨front', last', rfl⟩
      · exact (rootless leads' leads).elim
      · rw [List.concat_eq_append] at leads' ⊢
        obtain ⟨directory, child, member, above, isName, isNode⟩ := ends leads
        obtain ⟨directory', child', member', above', isName', isNode'⟩ := ends leads'
        have same := wellFormed.parent directory directory' child member child' member'
          (isNode.trans isNode'.symm)
        subst same
        have sameChild := wellFormed.child_eq member member' (isNode.trans isNode'.symm)
        subst sameChild
        rw [induction above above', ← isName, isName']

end WellFormed

end ImageFs.Tree
