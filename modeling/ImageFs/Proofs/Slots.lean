import ImageFs.Proofs.Contents

/-!
The slots of the inode table. Main statements: the cursor names the lowest vacant slot, an inode is
stored there, and a slot that is emptied moves the cursor down to it if it lies lower.
-/

namespace ImageFs

open Function (update)

/-! The lowest vacant slot -/

namespace Tree

variable (tree : Tree)

/-- The first vacant slot among `count` many from `first` on. -/
def vacantFrom (first count : Nat) : Option Nat :=
  (List.range' first count).find? fun slot => !decide (tree slot).IsLive

/-- Puts an empty node into a slot without entering it in a directory. -/
def fill (slot : Nat) (name : String) (kind : FileKind) : Tree :=
  update tree slot { name, generation := (tree slot).generation, body := kind.emptyBody }

/-- Empties a slot and counts its generation up. -/
def vacate (slot : Nat) : Tree :=
  update tree slot (.vacant ((tree slot).generation + 1))

variable {tree} {slots slot : Nat}

theorem vacantFrom_eq_some {first count : Nat} :
    tree.vacantFrom first count = some slot ↔ first ≤ slot ∧ slot < first + count ∧
      ¬ (tree slot).IsLive ∧ ∀ other, first ≤ other → other < slot → (tree other).IsLive := by
  rw [vacantFrom, List.find?_range'_eq_some, List.mem_range'_1]
  simp only [Bool.not_eq_true', decide_eq_false_iff_not, Bool.not_not, decide_eq_true_eq]
  tauto

theorem vacantFrom_eq_none {first count : Nat} :
    tree.vacantFrom first count = none ↔
      ∀ other, first ≤ other → other < first + count → (tree other).IsLive := by
  rw [vacantFrom, List.find?_range'_eq_none]
  simp only [Bool.not_not, decide_eq_true_eq]

theorem vacancy_eq_some : tree.vacancy slots = some slot ↔
    InodeNumber.firstFree ≤ slot ∧ slot < slots ∧ ¬ (tree slot).IsLive ∧
      ∀ other, InodeNumber.firstFree ≤ other → other < slot → (tree other).IsLive := by
  refine vacantFrom_eq_some.trans ⟨?_, ?_⟩
  · rintro ⟨free, inside, facts⟩
    exact ⟨free, by omega, facts⟩
  · rintro ⟨free, inside, facts⟩
    exact ⟨free, by omega, facts⟩

theorem vacancy_eq_none : tree.vacancy slots = none ↔
    ∀ other, InodeNumber.firstFree ≤ other → other < slots → (tree other).IsLive := by
  refine vacantFrom_eq_none.trans ⟨?_, ?_⟩
  · intro live other free inside
    exact live other free (by omega)
  · intro live other free inside
    exact live other free (by omega)

theorem isLive_fill {name : String} {kind : FileKind} (other : Nat) :
    (tree.fill slot name kind other).IsLive ↔ other = slot ∨ (tree other).IsLive := by
  by_cases same : other = slot
  · subst same
    rw [fill, Function.update_self]
    cases kind <;> simp [Node.IsLive, FileKind.emptyBody]
  · rw [fill, Function.update_of_ne same]
    simp [same]

theorem isLive_vacate (other : Nat) :
    (tree.vacate slot other).IsLive ↔ other ≠ slot ∧ (tree other).IsLive := by
  by_cases same : other = slot
  · subst same
    rw [vacate, Function.update_self]
    simp [Node.IsLive, Node.vacant]
  · rw [vacate, Function.update_of_ne same]
    simp [same]

theorem WellFormed.vacate (wellFormed : tree.WellFormed slots) (inside : slot < slots)
    (vacant : ¬ (tree slot).IsLive) : (tree.vacate slot).WellFormed slots := by
  have others {node : Nat} (live : (tree node).IsLive) : tree.vacate slot node = tree node := by
    refine Function.update_of_ne ?_ ..
    rintro rfl
    exact vacant live
  have rootLive : (tree InodeNumber.root).IsLive := by
    obtain ⟨children, body⟩ := wellFormed.rootBody
    exact Node.isLive_of_directory body
  have anchorLive : (tree InodeNumber.anchor).IsLive := by
    rw [wellFormed.anchor]
    simp [Node.IsLive, Node.anchor]
  refine wellFormed.congr ?_ ?_ ?_ (others rootLive) (others anchorLive) ?_
  · intro node
    by_cases same : node = slot
    · subst same
      rw [Tree.vacate, Function.update_self, wellFormed.vacant node vacant]
      rfl
    · rw [Tree.vacate, Function.update_of_ne same]
  · intro node
    by_cases same : node = slot
    · subst same
      rw [Tree.vacate, Function.update_self, children_of_vacant vacant]
      rfl
    · rw [Tree.vacate, Function.update_of_ne same]
  · intro node
    rw [isLive_vacate]
    refine ⟨And.right, fun live => ⟨?_, live⟩⟩
    rintro rfl
    exact vacant live
  · intro node behind
    exact Function.update_of_ne (by omega) ..

/-- After the lowest vacant slot has been filled, the next one lies behind it. -/
theorem vacancy_fill {name : String} {kind : FileKind} (vacancy : tree.vacancy slots = some slot) :
    (tree.fill slot name kind).vacancy slots =
      (tree.fill slot name kind).vacantFrom (slot + 1) (slots - (slot + 1)) := by
  obtain ⟨free, inside, -, below⟩ := vacancy_eq_some.mp vacancy
  cases next : (tree.fill slot name kind).vacantFrom (slot + 1) (slots - (slot + 1)) with
  | none =>
      have live := vacantFrom_eq_none.mp next
      refine vacancy_eq_none.mpr fun other free inside => ?_
      rcases Nat.lt_trichotomy other slot with before | same | behind
      · exact (isLive_fill other).mpr (.inr (below other free before))
      · exact (isLive_fill other).mpr (.inl same)
      · exact live other behind (by omega)
  | some following =>
      obtain ⟨behind, inside', vacant, between⟩ := vacantFrom_eq_some.mp next
      refine vacancy_eq_some.mpr ⟨by omega, by omega, vacant, fun other free before => ?_⟩
      rcases Nat.lt_trichotomy other slot with before' | same | behind'
      · exact (isLive_fill other).mpr (.inr (below other free before'))
      · exact (isLive_fill other).mpr (.inl same)
      · exact between other behind' before

end Tree

def lowered (cursor slot : Nat) : Nat :=
  if cursor = 0 ∨ slot < cursor then slot else cursor

/-- An emptied slot is the lowest vacant one, unless there is one below it. -/
theorem Tree.vacancy_vacate {tree : Tree} {slots slot : Nat} (free : InodeNumber.firstFree ≤ slot)
    (inside : slot < slots) :
    ((tree.vacate slot).vacancy slots).getD 0 = lowered ((tree.vacancy slots).getD 0) slot := by
  have first : InodeNumber.firstFree = 2 := rfl
  cases vacancy : tree.vacancy slots with
  | none =>
      have live := vacancy_eq_none.mp vacancy
      have lowest : (tree.vacate slot).vacancy slots = some slot := by
        refine vacancy_eq_some.mpr ⟨free, inside, ?_, fun other free' before => ?_⟩
        · simp [isLive_vacate]
        · exact (isLive_vacate other).mpr ⟨Nat.ne_of_lt before, live other free' (by omega)⟩
      rw [lowest, lowered]
      exact (if_pos (.inl rfl)).symm
  | some cursor =>
      obtain ⟨free', inside', vacant, below⟩ := vacancy_eq_some.mp vacancy
      rw [lowered, Option.getD_some]
      by_cases lower : slot < cursor
      · have lowest : (tree.vacate slot).vacancy slots = some slot := by
          refine vacancy_eq_some.mpr ⟨free, inside, ?_, fun other free' before => ?_⟩
          · simp [isLive_vacate]
          · exact (isLive_vacate other).mpr ⟨Nat.ne_of_lt before, below other free' (by omega)⟩
        rw [lowest, if_pos (.inr lower), Option.getD_some]
      · have lowest : (tree.vacate slot).vacancy slots = some cursor := by
          refine vacancy_eq_some.mpr ⟨free', inside', ?_, fun other free'' before => ?_⟩
          · exact fun live => vacant ((isLive_vacate cursor).mp live).2
          · exact (isLive_vacate other).mpr ⟨by omega, below other free'' before⟩
        rw [lowest, if_neg (by omega), Option.getD_some]

/-! Slots on the disk -/

variable {volume : Volume} {disk before : Disk} {tree : Tree} {chain : Nat → List Nat}

/-- The nodes do not tell where the cursor stands. -/
theorem Stored.withSlotCursor (stored : Stored volume.geometry disk tree chain) (cursor : Nat) :
    Stored volume.geometry { disk with counter := update disk.counter .nextFreeInode cursor } tree
      chain :=
  { stored with ledger := stored.ledger.congr rfl rfl rfl rfl rfl }

theorem Geometry.blocksFor_zero (geometry : Geometry) : geometry.blocksFor 0 = 0 := by
  have positive := geometry.payloadSize_pos
  exact Nat.div_eq_of_lt (by omega)

theorem Stored.chain_eq_nil (stored : Stored volume.geometry disk tree chain) {node : Nat}
    (none : (tree node).stored = []) : chain node = [] := by
  have length := stored.length node
  rw [none, List.length_nil, Geometry.blocksFor_zero] at length
  exact List.length_eq_zero_iff.mp length

/-- Nodes without bytes take each other's place by their records alone. -/
theorem Stored.replaceEmpty (stored : Stored volume.geometry before tree chain) {number : Nat}
    {node : Node} (inside : number < volume.geometry.inodeCount)
    (notAnchor : number ≠ InodeNumber.anchor) (fits : NameFits node.name)
    (was : (tree number).stored = []) (leaf : node.children = []) (none : node.stored = []) :
    Stored volume.geometry { before with record := update before.record number (node.inode []).record }
      (update tree number node) chain := by
  have empty := stored.chain_eq_nil was
  have same : update chain number [] = chain := by
    rw [← empty]
    exact Function.update_eq_self ..
  have refilled : Refilled volume.geometry chain number node.stored before [] before := by
    refine ⟨by rw [same]; exact stored.ledger, .refl .., ?_, ?_⟩
    · have length := stored.length number
      rw [was, empty] at length
      rw [none]
      exact length
    · rw [none, List.length_nil, Nat.zero_mul, Nat.zero_sub]
      rfl
  have replaced := stored.replace inside notAnchor fits
    (fun child member => by rw [leaf] at member; cases member) refilled
  rwa [same] at replaced

theorem Stored.findEmpty_answers (stored : Stored volume.geometry disk tree chain)
    {number count : Nat} (inside : number + count ≤ volume.geometry.inodeCount) :
    Answers volume (volume.findEmpty count number) disk
      (.ok ((tree.vacantFrom number count).getD 0)) := by
  induction count generalizing number with
  | zero => exact .pure _
  | succ count induction =>
      refine (stored.getInode_answers (by omega)).bind ?_
      rw [Tree.vacantFrom, List.range'_succ, List.find?_cons]
      by_cases live : (tree number).IsLive
      · refine Answers.ite_neg (by simp [live]) ?_
        have rest := induction (show number + 1 + count ≤ _ by omega)
        rw [Tree.vacantFrom] at rest
        simpa [live] using rest
      · refine Answers.ite_pos (by simp [live]) ?_
        simpa [live] using Answers.pure number

/-! Taking a slot -/

namespace Represents

theorem insertInode_error (represents : Represents volume.geometry before tree chain)
    (full : tree.vacancy volume.geometry.inodeCount = none) (inode : Inode) :
    Leads volume (volume.insertInode inode) before (.error .noFreeInodes) before := by
  have cursor := represents.slotCursor
  rw [full, Option.getD_none] at cursor
  refine (Leads.query (Volume.readCounter_answers .nextFreeInode)).bind ?_
  rw [cursor]
  exact Leads.ite_pos rfl (Leads.throw _).bind_error

theorem stored_of_vacant (represents : Represents volume.geometry before tree chain) {slot : Nat}
    (vacant : ¬ (tree slot).IsLive) :
    tree slot = .vacant (tree slot).generation ∧ (tree slot).stored = [] := by
  have name := represents.wellFormed.vacant slot vacant
  rw [Node.IsLive, not_not] at vacant
  refine ⟨?_, by rw [Node.stored, vacant]; rfl⟩
  cases isNode : tree slot with
  | mk nodeName generation body =>
      rw [isNode] at name vacant
      cases name
      cases vacant
      rfl

/-- A new inode goes into the lowest vacant slot. -/
theorem insertInode_leads (represents : Represents volume.geometry before tree chain) {slot : Nat}
    (vacancy : tree.vacancy volume.geometry.inodeCount = some slot) {name : String}
    (fits : NameFits name) (kind : FileKind) :
    ∃ after, Leads volume (volume.insertInode (.new name kind.toInodeKind)) before (.ok slot) after ∧
      Stored volume.geometry after (tree.fill slot name kind) chain ∧
      after.counter .nextFreeInode =
        ((tree.fill slot name kind).vacancy volume.geometry.inodeCount).getD 0 ∧
      ∃ record next, after = { before with
        record := update before.record slot record
        counter := update before.counter .nextFreeInode next } := by
  obtain ⟨free, inside, vacant, -⟩ := Tree.vacancy_eq_some.mp vacancy
  have first : InodeNumber.firstFree = 2 := rfl
  have cursor := represents.slotCursor
  rw [vacancy, Option.getD_some] at cursor
  have notAnchor : slot ≠ InodeNumber.anchor := Nat.ne_of_gt free
  let node : Node := { name, generation := (tree slot).generation, body := kind.emptyBody }
  have filled := @Stored.replaceEmpty volume before tree chain represents.stored slot node inside
    notAnchor fits (represents.stored_of_vacant vacant).2 (by cases kind <;> rfl)
    (by cases kind <;> rfl)
  let next := ((tree.fill slot name kind).vacancy volume.geometry.inodeCount).getD 0
  have moved : update before.counter .nextFreeInode next .nextFreeInode = next :=
    Function.update_self ..
  refine ⟨_, ?_, filled.withSlotCursor next, moved, _, _, rfl⟩
  refine (Leads.query (Volume.readCounter_answers .nextFreeInode)).bind ?_
  rw [cursor]
  refine Leads.ite_neg (by omega) (Leads.ite_neg (InodeNumber.not_isReserved free) ?_)
  refine (Leads.query (represents.stored.getInode_answers inside)).bind ?_
  refine Leads.ite_neg (by simp [vacant]) ?_
  have inode : ({ Inode.new name kind.toInodeKind with
      generation := ((tree slot).inode (chain slot)).generation } : Inode) = node.inode [] := by
    cases kind <;> rfl
  rw [inode]
  refine (Volume.putInode_leads inside fits).bind ?_
  have empties := filled.findEmpty_answers
    (show slot + 1 + (volume.geometry.inodeCount - (slot + 1)) ≤ _ by omega)
  refine (Leads.query empties).bind ?_
  have bound : next < Limit.word64 := by
    have table := volume.geometry.inodeCount_lt
    simp only [next]
    cases isNext : (tree.fill slot name kind).vacancy volume.geometry.inodeCount with
    | none => exact Nat.succ_pos _
    | some next =>
        have below := (Tree.vacancy_eq_some.mp isNext).2.1
        rw [Option.getD_some]
        omega
  simp only [next, Tree.vacancy_fill vacancy] at bound ⊢
  exact (Volume.writeCounter_leads .nextFreeInode bound).returning slot

end Represents

/-! Giving a slot back -/

theorem Volume.getInode_answers_of_record {number : Nat} {inode : Inode}
    (inside : number < volume.geometry.inodeCount) (fits : NameFits inode.name)
    (record : disk.record number = inode.record) :
    Answers volume (volume.getInode number) disk (.ok inode) := by
  refine (Volume.readInodeRecord_answers inside).bind ?_
  rw [record]
  refine Answers.except ?_
  rw [Inode.parse_record fits]
  rfl

theorem Volume.emptyInode_leads {number : Nat} {inode : Inode}
    (free : InodeNumber.firstFree ≤ number) (inside : number < volume.geometry.inodeCount)
    (fits : NameFits inode.name) (record : before.record number = inode.record) :
    Leads volume (volume.emptyInode number) before (.ok ())
      { before with
        record := update before.record number
          ((Node.vacant (inode.generation + 1)).inode []).record
        counter := update before.counter .nextFreeInode
          (lowered (before.counter .nextFreeInode) number) } := by
  have first : InodeNumber.firstFree = 2 := rfl
  have table := volume.geometry.inodeCount_lt
  refine Leads.ite_neg (InodeNumber.not_isReserved free) ?_
  refine (Leads.query (Volume.getInode_answers_of_record inside fits record)).bind ?_
  have isVacant : ({ Inode.empty with generation := inode.generation + 1 } : Inode) =
      (Node.vacant (inode.generation + 1)).inode [] := rfl
  rw [isVacant]
  refine (Volume.putInode_leads inside ⟨by simp [Node.inode, Node.vacant], Nat.zero_le _⟩).bind ?_
  refine (Leads.query (Volume.readCounter_answers .nextFreeInode)).bind ?_
  rw [lowered]
  by_cases lower : before.counter .nextFreeInode = 0 ∨ number < before.counter .nextFreeInode
  · refine Leads.ite_pos lower ?_
    rw [if_pos lower]
    exact Volume.writeCounter_leads .nextFreeInode (by omega)
  · refine Leads.ite_neg lower ?_
    rw [if_neg lower, Function.update_eq_self]
    exact .pure _

end ImageFs
