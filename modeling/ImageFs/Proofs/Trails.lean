import Mathlib.Data.Fintype.Pigeonhole
import Mathlib.Data.List.Induction
import Mathlib.Logic.Function.Iterate

/-!
Trails of slots through a graph, in which each slot of a node leads to at most one node. Main
statements: where no node is entered twice, two trails to the same node end alike, and each node is
either reached from the root or strays behind another origin or a cycle.
-/

namespace ImageFs.Trail

variable (step : Nat → Nat → Option Nat)

/-- The node that a row of slots leads to. -/
def follow : Nat → List Nat → Option Nat
  | node, [] => some node
  | node, slot :: rest => (step node slot).bind (follow · rest)

/-- No node is entered by two slots. -/
def EntersOnce : Prop :=
  ∀ ⦃first second slot slot' node : Nat⦄, step first slot = some node →
    step second slot' = some node → first = second ∧ slot = slot'

/-- The node lies behind another origin or behind a cycle. -/
def Stray (other node : Nat) : Prop :=
  ∃ origin trail, follow step origin trail = some node ∧
    (origin = other ∨ ∃ cycle, cycle ≠ [] ∧ follow step origin cycle = some origin)

variable {step}

theorem follow_append (node : Nat) (trail rest : List Nat) :
    follow step node (trail ++ rest) = (follow step node trail).bind (follow step · rest) := by
  induction trail generalizing node with
  | nil => rfl
  | cons slot trail induction =>
      rw [List.cons_append, follow, follow]
      cases step node slot with
      | none => rfl
      | some next => exact induction next

theorem follow_concat (node : Nat) (trail : List Nat) (slot : Nat) :
    follow step node (trail ++ [slot]) = (follow step node trail).bind (step · slot) := by
  rw [follow_append]
  refine congrArg (Option.bind _) (funext fun node => ?_)
  rw [follow]
  cases step node slot <;> rfl

theorem exists_of_follow_concat {first node slot : Nat} {trail : List Nat}
    (leads : follow step first (trail ++ [slot]) = some node) :
    ∃ between, follow step first trail = some between ∧ step between slot = some node := by
  rw [follow_concat] at leads
  exact Option.bind_eq_some_iff.mp leads

/-- Of two trails to a node one is the end of the other. -/
theorem follow_compare (once : EntersOnce step) {first second node : Nat} {trail trail' : List Nat}
    (leads : follow step first trail = some node) (leads' : follow step second trail' = some node) :
    (∃ front, trail = front ++ trail' ∧ follow step first front = some second) ∨
      ∃ front, trail' = front ++ trail ∧ follow step second front = some first := by
  induction trail using List.reverseRecOn generalizing trail' node with
  | nil =>
      cases leads
      exact .inr ⟨trail', (List.append_nil _).symm, leads'⟩
  | append_singleton trail slot induction =>
      rcases List.eq_nil_or_concat trail' with rfl | ⟨trail', slot', rfl⟩
      · cases leads'
        exact .inl ⟨trail ++ [slot], (List.append_nil _).symm, leads⟩
      · rw [List.concat_eq_append] at leads' ⊢
        obtain ⟨between, above, steps⟩ := exists_of_follow_concat leads
        obtain ⟨between', above', steps'⟩ := exists_of_follow_concat leads'
        obtain ⟨rfl, rfl⟩ := once steps steps'
        rcases induction above above' with ⟨front, rfl, leadsFront⟩ | ⟨front, rfl, leadsFront⟩
        · exact .inl ⟨front, List.append_assoc .., leadsFront⟩
        · exact .inr ⟨front, List.append_assoc .., leadsFront⟩

section Root

variable {root : Nat}

theorem eq_nil_of_follow_to {first : Nat} {trail : List Nat}
    (isRoot : ∀ first slot, step first slot ≠ some root)
    (leads : follow step first trail = some root) : trail = [] ∧ first = root := by
  rcases List.eq_nil_or_concat trail with rfl | ⟨trail, slot, rfl⟩
  · exact ⟨rfl, Option.some.inj leads⟩
  · rw [List.concat_eq_append] at leads
    obtain ⟨between, -, steps⟩ := exists_of_follow_concat leads
    exact absurd steps (isRoot between slot)

/-- Only one trail leads from a root to a node. -/
theorem follow_inj (once : EntersOnce step) (isRoot : ∀ first slot, step first slot ≠ some root)
    {node : Nat} {trail trail' : List Nat} (leads : follow step root trail = some node)
    (leads' : follow step root trail' = some node) : trail = trail' := by
  rcases follow_compare once leads leads' with ⟨front, rfl, around⟩ | ⟨front, rfl, around⟩
  · rw [(eq_nil_of_follow_to isRoot around).1, List.nil_append]
  · rw [(eq_nil_of_follow_to isRoot around).1, List.nil_append]

/-- What is reached from the root does not stray. -/
theorem not_stray_of_follow (once : EntersOnce step) {other : Nat} (different : root ≠ other)
    (isRoot : ∀ first slot, step first slot ≠ some root)
    (isRoot' : ∀ first slot, step first slot ≠ some other) {node : Nat} {trail : List Nat}
    (leads : follow step root trail = some node) : ¬ Stray step other node := by
  rintro ⟨origin, trail', leads', isStray⟩
  have fromRoot : ∃ front, follow step root front = some origin := by
    rcases follow_compare once leads leads' with ⟨front, -, leadsFront⟩ | ⟨front, -, leadsFront⟩
    · exact ⟨front, leadsFront⟩
    · exact ⟨[], congrArg some (eq_nil_of_follow_to isRoot leadsFront).2.symm⟩
  obtain ⟨front, leadsFront⟩ := fromRoot
  rcases isStray with rfl | ⟨cycle, proper, around⟩
  · exact different (eq_nil_of_follow_to isRoot' leadsFront).2
  · have twice : follow step root (front ++ cycle) = some origin := by
      rw [follow_append, leadsFront]
      exact around
    have same := follow_inj once isRoot leadsFront twice
    exact proper (List.self_eq_append_right.mp same)

end Root

/-! Finitely many nodes -/

/-- Each node of a finite part of the graph, in which all nodes but two roots are entered, is
reached from the first root or strays. -/
theorem reached_or_stray {part : Nat → Prop} {limit root other : Nat}
    (inside : ∀ node, part node → node < limit)
    (entered : ∀ node, part node → node ≠ root → node ≠ other →
      ∃ first slot, part first ∧ step first slot = some node)
    {node : Nat} (member : part node) :
    (∃ trail, follow step root trail = some node) ∨ Stray step other node := by
  by_contra neither
  -- the nodes that neither root leads to: each is entered from another of them
  let Lost := { node : Nat // part node ∧ ∀ trail,
    follow step root trail ≠ some node ∧ follow step other trail ≠ some node }
  have above (lost : Lost) : ∃ (up : Lost) (slot : Nat), step up slot = some lost.1 := by
    obtain ⟨node, member, unreached⟩ := lost
    have notRoot : node ≠ root := fun same => (unreached []).1 (congrArg some same.symm)
    have notOther : node ≠ other := fun same => (unreached []).2 (congrArg some same.symm)
    obtain ⟨first, slot, member', steps⟩ := entered node member notRoot notOther
    refine ⟨⟨first, member', fun trail => ⟨fun leads => ?_, fun leads => ?_⟩⟩, slot, steps⟩
    · exact (unreached (trail ++ [slot])).1 (by rw [follow_concat, leads]; exact steps)
    · exact (unreached (trail ++ [slot])).2 (by rw [follow_concat, leads]; exact steps)
  choose up slot steps using above
  have climb (count : Nat) (lost : Lost) :
      ∃ trail, trail.length = count ∧ follow step (up^[count] lost).1 trail = some lost.1 := by
    induction count with
    | zero => exact ⟨[], rfl, rfl⟩
    | succ count induction =>
        obtain ⟨trail, length, leads⟩ := induction
        refine ⟨slot (up^[count] lost) :: trail, by rw [List.length_cons, length], ?_⟩
        rw [Function.iterate_succ_apply', follow, steps]
        exact leads
  have finite : Finite Lost :=
    Finite.of_injective (fun lost : Lost => (⟨lost.1, inside _ lost.2.1⟩ : Fin limit))
      fun _ _ same => Subtype.ext (congrArg Fin.val same)
  let lost : Lost := ⟨node, member, fun trail =>
    ⟨fun leads => neither (.inl ⟨trail, leads⟩),
      fun leads => neither (.inr ⟨other, trail, leads, .inl rfl⟩)⟩⟩
  -- going up from the node, some lost node comes twice
  obtain ⟨early, late, different, same⟩ :=
    Finite.exists_ne_map_eq_of_infinite fun count => up^[count] lost
  wlog before : early < late generalizing early late
  · exact this late early different.symm same.symm (by omega)
  obtain ⟨trail, -, leads⟩ := climb early lost
  obtain ⟨cycle, length, around⟩ := climb (late - early) (up^[early] lost)
  rw [← Function.iterate_add_apply, Nat.sub_add_cancel (Nat.le_of_lt before), ← same] at around
  refine neither (.inr ⟨_, trail, leads, .inr ⟨cycle, ?_, around⟩⟩)
  exact List.ne_nil_of_length_pos (by omega)

end ImageFs.Trail
