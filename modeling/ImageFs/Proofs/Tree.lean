import Mathlib.Data.List.Nodup
import Mathlib.Logic.Function.Basic
import ImageFs.Image
import ImageFs.Proofs.Codec

/-!
The tree that an image stands for: numbered nodes, of which a directory has an ordered list of children.
Main statements: creating and removing children and changing the content of a file keep the tree well
formed.
-/

namespace ImageFs

open Function (update)

structure Child where
  name : String
  inode : Nat
deriving DecidableEq, Repr

inductive Body where
  | vacant
  | file (content : Bytes)
  | directory (children : List Child)
deriving DecidableEq, Repr

structure Node where
  name : String
  generation : UInt8
  body : Body
deriving DecidableEq, Repr

/-- The nodes by inode number. -/
abbrev Tree := Nat → Node

namespace Node

def vacant (generation : UInt8) : Node where
  name := ""
  generation
  body := .vacant

/-- The hidden file of the directory lock, while nobody holds the lock. -/
def anchor : Node where
  name := ".anchor"
  generation := 0
  body := .file (.zeros linkLength)

def IsLive (node : Node) : Prop :=
  node.body ≠ .vacant

instance (node : Node) : Decidable node.IsLive :=
  inferInstanceAs (Decidable (_ ≠ _))

def children (node : Node) : List Child :=
  match node.body with
  | .directory children => children
  | _ => []

theorem children_of_directory {node : Node} {children : List Child}
    (body : node.body = .directory children) : node.children = children := by
  rw [Node.children, body]

theorem isLive_of_directory {node : Node} {children : List Child}
    (body : node.body = .directory children) : node.IsLive := by
  rw [IsLive, body]
  simp

theorem directory_of_mem_children {node : Node} {child : Child} (member : child ∈ node.children) :
    node.body = .directory node.children := by
  rw [children] at member ⊢
  split at member
  · next children body => rw [body]
  · cases member

end Node

def FileKind.emptyBody : FileKind → Body
  | file => .file []
  | directory => .directory []

namespace Tree

variable (tree : Tree)

/-! Finding nodes -/

/-- The node that a directory has for a name. -/
def child? (directory : Nat) (name : String) : Option Nat :=
  ((tree directory).children.find? (·.name = name)).map Child.inode

def follow (node : Nat) : List String → Option Nat
  | [] => some node
  | name :: rest =>
      match tree.child? node name with
      | some child => follow child rest
      | none => none

/-- The node that names lead to from the root. -/
def resolve (names : List String) : Option Nat :=
  tree.follow InodeNumber.root names

/-- The directory that names lead to, with its children. -/
def directory? (names : List String) : Option (Nat × List Child) :=
  match tree.resolve names with
  | none => none
  | some node =>
      match (tree node).body with
      | .directory children => some (node, children)
      | _ => none

/-- The lowest vacant slot that may be taken. -/
def vacancy (slots : Nat) : Option Nat :=
  (List.range' InodeNumber.firstFree (slots - InodeNumber.firstFree)).find? fun slot =>
    !decide (tree slot).IsLive

/-! Changes -/

/-- Puts an empty node into a slot and at the end of a directory. -/
def enter (parent slot : Nat) (name : String) (kind : FileKind) : Tree :=
  update
    (update tree parent
      { tree parent with body := .directory ((tree parent).children ++ [⟨name, slot⟩]) })
    slot { name, generation := (tree slot).generation, body := kind.emptyBody }

/-- Without the child at a position, which the last child takes. -/
def moveLast (children : List Child) (position : Nat) : List Child :=
  match children.getLast? with
  | none => []
  | some last => (children.set position last).dropLast

/-- Empties the slot of a node that is taken out of its directory. -/
def leave (parent position target : Nat) : Tree :=
  update
    (update tree parent
      { tree parent with body := .directory (moveLast (tree parent).children position) })
    target (.vacant ((tree target).generation + 1))

def setContent (node : Nat) (content : Bytes) : Tree :=
  update tree node { tree node with body := .file content }

/-! Well-formed trees -/

/-- The directories form a tree below the root: children are live and named like their nodes, the names
in a directory are distinct, and each live node but the root and the anchor is in one directory. -/
structure WellFormed (slots : Nat) : Prop where
  rootName : (tree InodeNumber.root).name = "/"
  rootBody : ∃ children, (tree InodeNumber.root).body = .directory children
  anchor : tree InodeNumber.anchor = .anchor
  vacant : ∀ node, ¬ (tree node).IsLive → (tree node).name = ""
  beyond : ∀ node, slots ≤ node → tree node = .vacant 0
  fits : ∀ node, NameFits (tree node).name
  child : ∀ node, ∀ child ∈ (tree node).children, InodeNumber.firstFree ≤ child.inode ∧
    (tree child.inode).IsLive ∧ (tree child.inode).name = child.name
  distinct : ∀ node, ((tree node).children.map Child.name).Nodup
  parent : ∀ first second, ∀ child ∈ (tree first).children, ∀ other ∈ (tree second).children,
    child.inode = other.inode → first = second
  linked : ∀ node, InodeNumber.firstFree ≤ node → (tree node).IsLive →
    ∃ directory, ∃ child ∈ (tree directory).children, child.inode = node
  depth : ∃ depth : Nat → Nat, ∀ node, ∀ child ∈ (tree node).children,
    depth child.inode = depth node + 1

namespace WellFormed

variable {tree : Tree} {slots : Nat}

theorem lt_of_isLive (wellFormed : tree.WellFormed slots) {node : Nat} (live : (tree node).IsLive) :
    node < slots := by
  refine Nat.not_le.mp fun beyond => live ?_
  rw [wellFormed.beyond node beyond]
  rfl

theorem not_isLive_of_vacancy {slot : Nat} (vacancy : tree.vacancy slots = some slot) :
    InodeNumber.firstFree ≤ slot ∧ slot < slots ∧ ¬ (tree slot).IsLive := by
  have member := List.mem_range'_1.mp (List.mem_of_find?_eq_some vacancy)
  have vacant := List.find?_some vacancy
  exact ⟨member.1, by omega, by simpa using vacant⟩

theorem children_of_vacant {node : Nat} (vacant : ¬ (tree node).IsLive) :
    (tree node).children = [] := by
  cases children : (tree node).children with
  | nil => rfl
  | cons child rest =>
      have body := Node.directory_of_mem_children (children ▸ List.mem_cons_self)
      exact absurd (Node.isLive_of_directory body) vacant

theorem child_eq (wellFormed : tree.WellFormed slots) {directory : Nat} {child other : Child}
    (member : child ∈ (tree directory).children) (member' : other ∈ (tree directory).children)
    (same : child.inode = other.inode) : child = other := by
  have name := (wellFormed.child directory child member).2.2
  have name' := (wellFormed.child directory other member').2.2
  rw [same, name'] at name
  cases child
  cases other
  simp_all

theorem child?_of_mem (wellFormed : tree.WellFormed slots) {directory : Nat} {child : Child}
    (member : child ∈ (tree directory).children) :
    tree.child? directory child.name = some child.inode := by
  have nodup := wellFormed.distinct directory
  rw [child?]
  cases found : (tree directory).children.find? (·.name = child.name) with
  | none => exact absurd (List.find?_eq_none.mp found child member) (by simp)
  | some other =>
      have sameName : other.name = child.name := by simpa using List.find?_some found
      have same := List.inj_on_of_nodup_map nodup (List.mem_of_find?_eq_some found) member sameName
      rw [same]
      rfl

/-- The tree after changes that leave all names, children and vacancies alone. -/
theorem congr {tree' : Tree} (wellFormed : tree.WellFormed slots)
    (name : ∀ node, (tree' node).name = (tree node).name)
    (children : ∀ node, (tree' node).children = (tree node).children)
    (live : ∀ node, (tree' node).IsLive ↔ (tree node).IsLive)
    (root : tree' InodeNumber.root = tree InodeNumber.root)
    (anchor : tree' InodeNumber.anchor = tree InodeNumber.anchor)
    (beyond : ∀ node, slots ≤ node → tree' node = tree node) : tree'.WellFormed slots where
  rootName := by rw [root, wellFormed.rootName]
  rootBody := by rw [root]; exact wellFormed.rootBody
  anchor := anchor.trans wellFormed.anchor
  vacant node vacant := by rw [name, wellFormed.vacant node fun isLive => vacant ((live node).mpr isLive)]
  beyond node behind := (beyond node behind).trans (wellFormed.beyond node behind)
  fits node := by rw [name]; exact wellFormed.fits node
  child node child := by
    rw [children, live, name]
    exact wellFormed.child node child
  distinct node := by rw [children]; exact wellFormed.distinct node
  parent first second child := by
    rw [children, children]
    exact wellFormed.parent first second child
  linked node free isLive := by
    simp only [children]
    exact wellFormed.linked node free ((live node).mp isLive)
  depth := by
    simp only [children]
    exact wellFormed.depth

theorem root_ne_of_free {slot : Nat} (free : InodeNumber.firstFree ≤ slot) :
    InodeNumber.root ≠ slot := by
  rintro rfl
  exact absurd free (by decide)

theorem anchor_ne_of_free {slot : Nat} (free : InodeNumber.firstFree ≤ slot) :
    InodeNumber.anchor ≠ slot := by
  rintro rfl
  exact absurd free (by decide)

theorem anchor_ne_of_directory (wellFormed : tree.WellFormed slots) {directory : Nat}
    {children : List Child} (body : (tree directory).body = .directory children) :
    InodeNumber.anchor ≠ directory := by
  rintro rfl
  rw [wellFormed.anchor] at body
  cases body

/-! Entering a node -/

section Enter

variable {parent slot : Nat} {children : List Child} {name : String} {kind : FileKind}

theorem children_enter (different : slot ≠ parent) (node : Nat) :
    (tree.enter parent slot name kind node).children =
      if node = slot then []
      else if node = parent then (tree parent).children ++ [⟨name, slot⟩]
      else (tree node).children := by
  by_cases same : node = slot
  · subst same
    rw [if_pos rfl, enter, Function.update_self]
    cases kind <;> rfl
  · rw [if_neg same, enter, Function.update_of_ne same]
    by_cases same' : node = parent
    · subst same'
      rw [if_pos rfl, Function.update_self]
      rfl
    · rw [if_neg same', Function.update_of_ne same']

theorem enter_of_ne {node : Nat} (notSlot : node ≠ slot) (notParent : node ≠ parent) :
    tree.enter parent slot name kind node = tree node := by
  rw [enter, Function.update_of_ne notSlot, Function.update_of_ne notParent]

theorem name_enter {node : Nat} (notSlot : node ≠ slot) :
    (tree.enter parent slot name kind node).name = (tree node).name := by
  rw [enter, Function.update_of_ne notSlot]
  by_cases same : node = parent
  · subst same
    rw [Function.update_self]
  · rw [Function.update_of_ne same]

theorem isLive_enter_slot : (tree.enter parent slot name kind slot).IsLive := by
  rw [enter, Function.update_self]
  cases kind <;> simp [Node.IsLive, FileKind.emptyBody]

theorem isLive_enter (body : (tree parent).body = .directory children) {node : Nat}
    (notSlot : node ≠ slot) :
    (tree.enter parent slot name kind node).IsLive ↔ (tree node).IsLive := by
  by_cases same : node = parent
  · subst same
    rw [enter, Function.update_of_ne notSlot, Function.update_self]
    exact iff_of_true (by simp [Node.IsLive]) (Node.isLive_of_directory body)
  · rw [enter_of_ne notSlot same]

/-- The children after are those before and the new one. -/
theorem mem_children_enter (vacant : ¬ (tree slot).IsLive) (different : slot ≠ parent) {node : Nat}
    {child : Child} :
    child ∈ (tree.enter parent slot name kind node).children ↔
      child ∈ (tree node).children ∨ (node = parent ∧ child = ⟨name, slot⟩) := by
  rw [children_enter different]
  split
  · next same =>
    subst same
    simp [children_of_vacant vacant, different]
  · split
    · next same =>
      subst same
      simp
    · next notParent => simp [notParent]

theorem enter (wellFormed : tree.WellFormed slots) (body : (tree parent).body = .directory children)
    (free : InodeNumber.firstFree ≤ slot) (inside : slot < slots) (vacant : ¬ (tree slot).IsLive)
    (fits : NameFits name) (new : name ∉ children.map Child.name) :
    (tree.enter parent slot name kind).WellFormed slots := by
  have different : slot ≠ parent := fun same =>
    vacant (same ▸ Node.isLive_of_directory body)
  have isChildren : (tree parent).children = children := Node.children_of_directory body
  have notSlot {node : Nat} {child : Child} (member : child ∈ (tree node).children) :
      child.inode ≠ slot :=
    fun same => vacant (same ▸ (wellFormed.child node child member).2.1)
  have anchorNotParent := wellFormed.anchor_ne_of_directory body
  have member_iff {node : Nat} {child : Child} :=
    @mem_children_enter tree parent slot name kind vacant different node child
  refine ⟨?_, ?_, ?_, ?_, ?_, ?_, ?_, ?_, ?_, ?_, ?_⟩
  · rw [name_enter (root_ne_of_free free), wellFormed.rootName]
  · by_cases same : InodeNumber.root = parent
    · rw [same, Tree.enter, Function.update_of_ne (Ne.symm different), Function.update_self]
      exact ⟨_, rfl⟩
    · rw [enter_of_ne (root_ne_of_free free) same]
      exact wellFormed.rootBody
  · rw [enter_of_ne (anchor_ne_of_free free) anchorNotParent, wellFormed.anchor]
  · intro node isVacant
    by_cases same : node = slot
    · subst same
      exact absurd isLive_enter_slot isVacant
    · rw [name_enter same]
      exact wellFormed.vacant node fun live => isVacant ((isLive_enter body same).mpr live)
  · intro node behind
    have parentInside := wellFormed.lt_of_isLive (Node.isLive_of_directory body)
    rw [enter_of_ne (by omega) (by omega)]
    exact wellFormed.beyond node behind
  · intro node
    by_cases same : node = slot
    · subst same
      rwa [Tree.enter, Function.update_self]
    · rw [name_enter same]
      exact wellFormed.fits node
  · intro node child member
    rcases member_iff.mp member with old | ⟨rfl, rfl⟩
    · obtain ⟨isFree, live, sameName⟩ := wellFormed.child node child old
      exact ⟨isFree, (isLive_enter body (notSlot old)).mpr live,
        (name_enter (notSlot old)).trans sameName⟩
    · refine ⟨free, isLive_enter_slot, ?_⟩
      rw [Tree.enter, Function.update_self]
  · intro node
    rw [children_enter different]
    split
    · exact List.nodup_nil
    · split
      · rw [List.map_append, isChildren]
        refine List.nodup_append.mpr ⟨isChildren ▸ wellFormed.distinct parent, by simp, ?_⟩
        intro old inOld other inNew same
        cases List.mem_singleton.mp inNew
        exact new ((show old = name from same) ▸ inOld)
      · exact wellFormed.distinct node
  · intro first second child member other member' same
    rcases member_iff.mp member with old | ⟨isParent, rfl⟩ <;>
      rcases member_iff.mp member' with old' | ⟨isParent', rfl⟩
    · exact wellFormed.parent first second child old other old' same
    · exact absurd same (notSlot old)
    · exact absurd same.symm (notSlot old')
    · exact isParent.trans isParent'.symm
  · intro node isFree live
    by_cases same : node = slot
    · subst same
      exact ⟨parent, _, member_iff.mpr (.inr ⟨rfl, rfl⟩), rfl⟩
    · obtain ⟨directory, child, member, isChild⟩ :=
        wellFormed.linked node isFree ((isLive_enter body same).mp live)
      exact ⟨directory, child, member_iff.mpr (.inl member), isChild⟩
  · obtain ⟨depth, deeper⟩ := wellFormed.depth
    refine ⟨update depth slot (depth parent + 1), ?_⟩
    intro node child member
    rcases member_iff.mp member with old | ⟨rfl, rfl⟩
    · have notVacant : node ≠ slot := by
        intro same
        subst same
        rw [children_of_vacant vacant] at old
        cases old
      rw [Function.update_of_ne (notSlot old), Function.update_of_ne notVacant]
      exact deeper node child old
    · rw [Function.update_self, Function.update_of_ne (Ne.symm different)]

end Enter

/-! Taking a node out -/

theorem perm_moveLast {children : List Child} {position : Nat} {child : Child}
    (isChild : children[position]? = some child) :
    children.Perm (child :: moveLast children position) := by
  have notEmpty : children ≠ [] := by
    rintro rfl
    cases isChild
  obtain ⟨front, last, rfl⟩ : ∃ front last, children = front ++ [last] :=
    ⟨_, _, (List.dropLast_append_getLast notEmpty).symm⟩
  rw [moveLast, List.getLast?_concat]
  dsimp only
  rcases Nat.lt_or_ge position front.length with before | behind
  · rw [List.getElem?_append_left before] at isChild
    obtain ⟨_, isChild⟩ := List.getElem?_eq_some_iff.mp isChild
    have split : front = front.take position ++ child :: front.drop (position + 1) := by
      rw [← isChild, ← List.drop_eq_getElem_cons, List.take_append_drop]
    rw [List.set_append_left _ _ before, List.dropLast_concat, List.set_eq_take_append_cons_drop,
      if_pos before]
    generalize front.take position = early at split ⊢
    generalize front.drop (position + 1) = late at split ⊢
    subst split
    rw [List.append_assoc, List.cons_append]
    refine List.perm_middle.trans (List.Perm.cons child ?_)
    exact (List.perm_append_singleton last late).append_left early
  · rw [List.getElem?_append_right behind] at isChild
    obtain ⟨inside, isChild⟩ := List.getElem?_eq_some_iff.mp isChild
    rw [List.length_singleton] at inside
    rw [List.set_append_right _ _ behind, show position - front.length = 0 by omega,
      List.set_cons_zero, List.dropLast_concat]
    have same : last = child := by
      rw [← isChild]
      simp
    rw [same]
    exact List.perm_append_singleton child front

section Leave

variable {parent position target : Nat} {children : List Child} {child : Child}

theorem children_leave (different : target ≠ parent) (node : Nat) :
    (tree.leave parent position target node).children =
      if node = target then []
      else if node = parent then moveLast (tree parent).children position
      else (tree node).children := by
  by_cases same : node = target
  · subst same
    rw [if_pos rfl, Tree.leave, Function.update_self]
    rfl
  · rw [if_neg same, Tree.leave, Function.update_of_ne same]
    by_cases same' : node = parent
    · subst same'
      rw [if_pos rfl, Function.update_self]
      rfl
    · rw [if_neg same', Function.update_of_ne same']

theorem leave_of_ne {node : Nat} (notTarget : node ≠ target) (notParent : node ≠ parent) :
    tree.leave parent position target node = tree node := by
  rw [Tree.leave, Function.update_of_ne notTarget, Function.update_of_ne notParent]

theorem name_leave {node : Nat} (notTarget : node ≠ target) :
    (tree.leave parent position target node).name = (tree node).name := by
  rw [Tree.leave, Function.update_of_ne notTarget]
  by_cases same : node = parent
  · subst same
    rw [Function.update_self]
  · rw [Function.update_of_ne same]

theorem leave_target : tree.leave parent position target target =
    .vacant ((tree target).generation + 1) := by
  rw [Tree.leave, Function.update_self]

theorem isLive_leave (body : (tree parent).body = .directory children) {node : Nat}
    (notTarget : node ≠ target) :
    (tree.leave parent position target node).IsLive ↔ (tree node).IsLive := by
  by_cases same : node = parent
  · subst same
    rw [Tree.leave, Function.update_of_ne notTarget, Function.update_self]
    exact iff_of_true (by simp [Node.IsLive]) (Node.isLive_of_directory body)
  · rw [leave_of_ne notTarget same]

theorem ne_parent_of_leaf (inParent : child ∈ (tree parent).children)
    (empty : (tree child.inode).children = []) : child.inode ≠ parent := by
  rintro rfl
  rw [empty] at inParent
  cases inParent

/-- The children after are those before without the one that is taken out. -/
theorem mem_children_leave (wellFormed : tree.WellFormed slots)
    (isChild : (tree parent).children[position]? = some child)
    (empty : (tree child.inode).children = []) {node : Nat} {other : Child} :
    other ∈ (tree.leave parent position child.inode node).children ↔
      other ∈ (tree node).children ∧ other.inode ≠ child.inode := by
  have inParent := List.mem_of_getElem? isChild
  have split := perm_moveLast isChild
  rw [children_leave (ne_parent_of_leaf inParent empty)]
  split
  · next same =>
    subst same
    simp [empty]
  · split
    · next same =>
      subst same
      have nodup := split.nodup_iff.mp (wellFormed.distinct node).of_map
      rw [split.mem_iff, List.mem_cons]
      constructor
      · refine fun member => ⟨.inr member, fun same => (List.nodup_cons.mp nodup).1 ?_⟩
        have old := split.mem_iff.mpr (List.mem_cons_of_mem _ member)
        exact wellFormed.child_eq old inParent same ▸ member
      · rintro ⟨rfl | member, apart⟩
        · exact absurd rfl apart
        · exact member
    · next notParent =>
      refine ⟨fun member => ⟨member, fun same => ?_⟩, And.left⟩
      exact notParent (wellFormed.parent node parent other member child inParent same)

theorem leave (wellFormed : tree.WellFormed slots) (body : (tree parent).body = .directory children)
    (isChild : children[position]? = some child) (empty : (tree child.inode).children = []) :
    (tree.leave parent position child.inode).WellFormed slots := by
  have isChildren : (tree parent).children = children := Node.children_of_directory body
  have inParent : child ∈ (tree parent).children := isChildren ▸ List.mem_of_getElem? isChild
  obtain ⟨free, live, -⟩ := wellFormed.child parent child inParent
  have different := ne_parent_of_leaf inParent empty
  have anchorNotParent := wellFormed.anchor_ne_of_directory body
  have member_iff {node : Nat} {other : Child} :=
    @mem_children_leave tree slots parent position child wellFormed (isChildren ▸ isChild) empty node
      other
  refine ⟨?_, ?_, ?_, ?_, ?_, ?_, ?_, ?_, ?_, ?_, ?_⟩
  · rw [name_leave (root_ne_of_free free), wellFormed.rootName]
  · by_cases same : InodeNumber.root = parent
    · rw [same, Tree.leave, Function.update_of_ne (Ne.symm different), Function.update_self]
      exact ⟨_, rfl⟩
    · rw [leave_of_ne (root_ne_of_free free) same]
      exact wellFormed.rootBody
  · rw [leave_of_ne (anchor_ne_of_free free) anchorNotParent, wellFormed.anchor]
  · intro node isVacant
    by_cases same : node = child.inode
    · rw [same, leave_target]
      rfl
    · rw [name_leave same]
      exact wellFormed.vacant node fun live => isVacant ((isLive_leave body same).mpr live)
  · intro node behind
    have parentInside := wellFormed.lt_of_isLive (Node.isLive_of_directory body)
    have targetInside := wellFormed.lt_of_isLive live
    rw [leave_of_ne (by omega) (by omega)]
    exact wellFormed.beyond node behind
  · intro node
    by_cases same : node = child.inode
    · rw [same, leave_target]
      exact ⟨by simp [Node.vacant], Nat.zero_le _⟩
    · rw [name_leave same]
      exact wellFormed.fits node
  · intro node other member
    obtain ⟨old, apart⟩ := member_iff.mp member
    obtain ⟨isFree, live, sameName⟩ := wellFormed.child node other old
    exact ⟨isFree, (isLive_leave body apart).mpr live, (name_leave apart).trans sameName⟩
  · intro node
    rw [children_leave different]
    split
    · exact List.nodup_nil
    · split
      · have names := (perm_moveLast (isChildren ▸ isChild)).map Child.name
        exact (List.nodup_cons.mp (names.nodup_iff.mp (wellFormed.distinct parent))).2
      · exact wellFormed.distinct node
  · intro first second one member other member' same
    exact wellFormed.parent first second one (member_iff.mp member).1 other
      (member_iff.mp member').1 same
  · intro node isFree live
    have notTarget : node ≠ child.inode := by
      rintro rfl
      rw [leave_target] at live
      exact live rfl
    obtain ⟨directory, other, member, isNode⟩ :=
      wellFormed.linked node isFree ((isLive_leave body notTarget).mp live)
    exact ⟨directory, other, member_iff.mpr ⟨member, isNode ▸ notTarget⟩, isNode⟩
  · obtain ⟨depth, deeper⟩ := wellFormed.depth
    exact ⟨depth, fun node other member => deeper node other (member_iff.mp member).1⟩

end Leave

end WellFormed

end Tree

end ImageFs
