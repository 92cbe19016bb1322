import Mathlib.Logic.Function.Iterate
import Mathlib.Data.Nat.Find
import ImageFs.Proofs.Reports
import ImageFs.Proofs.Session

/-!
Walks along the links of a file, whatever the links are. Main statement: a walk reads no more links than
there are data blocks; it gives the blocks when the links lead to zero within the data area, and else it
tells links that run in a circle from a link that leaves the area.
-/

namespace ImageFs

variable {α β : Type}

/-! Programs that read links -/

/-- A computation that stops at each link it needs until it is told the link. -/
inductive LinkProgram (α : Type) where
  | done (answer : Except FsError α)
  | ask (block : Nat) (onward : Nat → LinkProgram α)

namespace LinkProgram

def map (convert : α → β) : LinkProgram α → LinkProgram β
  | done answer => done (answer.map convert)
  | ask block onward => ask block fun next => (onward next).map convert

/-- Runs the program with the links of a volume, one access to the file for each. -/
def run (volume : Volume) : LinkProgram α → Query α
  | done answer => liftM answer
  | ask block onward => do
      let next ← volume.nextBlock block
      (onward next).run volume

/-- The blocks whose links are read, one after the other, when the links are those given. -/
def asked (next : Nat → Nat) : LinkProgram α → List Nat
  | done _ => []
  | ask block onward => block :: (onward (next block)).asked next

theorem asked_map (convert : α → β) (program : LinkProgram α) (next : Nat → Nat) :
    (program.map convert).asked next = program.asked next := by
  induction program with
  | done answer => rfl
  | ask block onward induction => exact congrArg (block :: ·) (induction (next block))

theorem run_map (volume : Volume) (convert : α → β) (program : LinkProgram α) :
    (program.map convert).run volume = (do
      let value ← program.run volume
      return convert value) := by
  induction program with
  | done answer => cases answer <;> rfl
  | ask block onward induction =>
      unfold map run
      rw [bind_assoc]
      apply congrArg (volume.nextBlock block >>= ·)
      funext next
      exact induction next

end LinkProgram

/-- The walk along a chain as a program. -/
def Volume.walker (volume : Volume) (first : Nat) : Nat → Nat → LinkProgram (List Nat)
  | budget, current =>
      if current = 0 then .done (.ok [])
      else
        match volume.checkDataBlock current with
        | .error error => .done (.error error)
        | .ok () =>
            match budget with
            | 0 => .done (.error (.corrupt current (.chainLoops first)))
            | budget + 1 =>
                .ask current fun next => (walker volume first budget next).map (current :: ·)

namespace Volume

theorem run_walker (volume : Volume) (first budget current : Nat) :
    (volume.walker first budget current).run volume = volume.walkChain first budget current := by
  induction budget generalizing current with
  | zero =>
      rw [walker.eq_def, walkChain.eq_def]
      dsimp only
      by_cases ends : current = 0
      · rw [if_pos ends, if_pos ends]
        rfl
      · rw [if_neg ends, if_neg ends]
        cases volume.checkDataBlock current <;> rfl
  | succ budget induction =>
      rw [walker.eq_def, walkChain.eq_def]
      dsimp only
      by_cases ends : current = 0
      · rw [if_pos ends, if_pos ends]
        rfl
      · rw [if_neg ends, if_neg ends]
        cases volume.checkDataBlock current with
        | error error => rfl
        | ok =>
            apply congrArg (volume.nextBlock current >>= ·)
            funext next
            rw [LinkProgram.run_map, induction]

theorem length_asked_walker (volume : Volume) (first budget current : Nat) (next : Nat → Nat) :
    ((volume.walker first budget current).asked next).length ≤ budget := by
  induction budget generalizing current with
  | zero =>
      rw [walker.eq_def]
      dsimp only
      split
      · exact Nat.le_refl 0
      · cases volume.checkDataBlock current <;> exact Nat.le_refl 0
  | succ budget induction =>
      rw [walker.eq_def]
      dsimp only
      split
      · exact Nat.zero_le _
      · cases volume.checkDataBlock current with
        | error error => exact Nat.zero_le _
        | ok =>
            dsimp only
            rw [LinkProgram.asked, LinkProgram.asked_map, List.length_cons]
            exact Nat.succ_le_succ (induction (next current))

end Volume

/-! Where links lead -/

namespace Content

variable (content : Content) (geometry : Geometry)

/-- The number that is met after following `count` links. -/
def met (first count : Nat) : Nat :=
  (content.next geometry)^[count] first

/-- The first `count` numbers that are met. -/
def visits (first count : Nat) : List Nat :=
  (List.range count).map (content.met geometry first)

/-- The links lead to zero, and before that through `count` data blocks. -/
structure EndsAfter (first count : Nat) : Prop where
  stays : ∀ earlier < count, geometry.IsData (content.met geometry first earlier)
  ends : content.met geometry first count = 0

/-- The links lead out of the data area, and before that through `count` data blocks. -/
structure LeavesAfter (first count : Nat) : Prop where
  stays : ∀ earlier < count, geometry.IsData (content.met geometry first earlier)
  nonzero : content.met geometry first count ≠ 0
  outside : ¬ geometry.IsData (content.met geometry first count)

/-- The links stay in the data area for ever. -/
def Circles (first : Nat) : Prop :=
  ∀ count, geometry.IsData (content.met geometry first count)

variable {content geometry} {first count : Nat}

theorem met_zero : content.met geometry first 0 = first := rfl

theorem met_succ : content.met geometry first (count + 1) =
    content.met geometry (content.next geometry first) count := by
  unfold met
  exact Function.iterate_succ_apply ..

theorem met_add (more : Nat) : content.met geometry first (count + more) =
    content.met geometry (content.met geometry first count) more := by
  unfold met
  rw [Nat.add_comm, Function.iterate_add_apply]

@[simp] theorem length_visits : (content.visits geometry first count).length = count := by
  simp [visits]

theorem visits_succ : content.visits geometry first (count + 1) =
    first :: content.visits geometry (content.next geometry first) count := by
  unfold visits
  rw [List.range_succ_eq_map, List.map_cons, List.map_map, met_zero]
  congr 1

/-- A block that is met twice is met again and again, so that the links never lead out. -/
theorem met_injective (stays : ∀ earlier < count, geometry.IsData (content.met geometry first earlier))
    (stops : ¬ geometry.IsData (content.met geometry first count)) {early late : Nat}
    (before : early < late) (inside : late < count) :
    content.met geometry first early ≠ content.met geometry first late := by
  intro same
  have again : content.met geometry first (early + (count - late)) =
      content.met geometry first count := by
    rw [met_add, same, ← met_add, Nat.add_sub_cancel' (Nat.le_of_lt inside)]
  apply stops
  rw [← again]
  exact stays _ (by omega)

theorem nodup_visits (stays : ∀ earlier < count, geometry.IsData (content.met geometry first earlier))
    (stops : ¬ geometry.IsData (content.met geometry first count)) :
    (content.visits geometry first count).Nodup := by
  unfold visits
  apply List.Nodup.map_on _ List.nodup_range
  intro one member other member' same
  rw [List.mem_range] at member member'
  rcases Nat.lt_trichotomy one other with before | equal | behind
  · exact absurd same (met_injective stays stops before member')
  · exact equal
  · exact absurd same.symm (met_injective stays stops behind member)

/-- Links that stop in the end stop after as many blocks as there are, or fewer. -/
theorem count_le_blocks
    (stays : ∀ earlier < count, geometry.IsData (content.met geometry first earlier))
    (stops : ¬ geometry.IsData (content.met geometry first count)) : count ≤ geometry.blocks := by
  have isData : ∀ block ∈ content.visits geometry first count, geometry.IsData block := by
    intro block member
    obtain ⟨earlier, isEarlier, rfl⟩ := List.mem_map.mp member
    exact stays earlier (List.mem_range.mp isEarlier)
  have bound := geometry.length_le_blocks isData (nodup_visits stays stops)
  rwa [length_visits] at bound

theorem EndsAfter.stops (ends : content.EndsAfter geometry first count) :
    ¬ geometry.IsData (content.met geometry first count) := by
  intro isData
  exact geometry.ne_zero_of_isData isData ends.ends

theorem EndsAfter.tail (ends : content.EndsAfter geometry first (count + 1)) :
    content.EndsAfter geometry (content.next geometry first) count where
  stays earlier before := by
    rw [← met_succ]
    exact ends.stays (earlier + 1) (Nat.succ_lt_succ before)
  ends := by
    rw [← met_succ]
    exact ends.ends

theorem LeavesAfter.tail (leaves : content.LeavesAfter geometry first (count + 1)) :
    content.LeavesAfter geometry (content.next geometry first) count where
  stays earlier before := by
    rw [← met_succ]
    exact leaves.stays (earlier + 1) (Nat.succ_lt_succ before)
  nonzero := by
    rw [← met_succ]
    exact leaves.nonzero
  outside := by
    rw [← met_succ]
    exact leaves.outside

/-- How a walk ends, by where the links lead. -/
inductive WalkEnding (content : Content) (geometry : Geometry) (first : Nat) :
    Except Halt (List Nat) → Prop where
  | ends {count : Nat} (ends : content.EndsAfter geometry first count) :
      WalkEnding content geometry first (.ok (content.visits geometry first count))
  | leaves {count : Nat} (leaves : content.LeavesAfter geometry first count) :
      WalkEnding content geometry first (.error (.failed (.corrupt
        (content.met geometry first count)
        (.notDataBlock geometry.dataStart geometry.totalBlocks))))
  | circles (circles : content.Circles geometry first) :
      WalkEnding content geometry first (.error (.failed (.corrupt
        (content.met geometry first geometry.blocks) (.chainLoops first))))

/-- The links end, leave the data area or run in a circle. -/
theorem exists_fate (content : Content) (geometry : Geometry) (first : Nat) :
    (∃ count, content.EndsAfter geometry first count) ∨
      (∃ count, content.LeavesAfter geometry first count) ∨ content.Circles geometry first := by
  classical
  by_cases circles : content.Circles geometry first
  · exact .inr (.inr circles)
  · have stops : ∃ count, ¬ geometry.IsData (content.met geometry first count) :=
      not_forall.mp circles
    have stays : ∀ earlier < Nat.find stops, geometry.IsData (content.met geometry first earlier) :=
      fun earlier before => not_not.mp (Nat.find_min stops before)
    by_cases zero : content.met geometry first (Nat.find stops) = 0
    · exact .inl ⟨_, stays, zero⟩
    · exact .inr (.inl ⟨_, stays, zero, Nat.find_spec stops⟩)

end Content

/-! Walks -/

namespace Volume

variable {volume : Volume} {backing : Backing} {first current count budget : Nat}

section Long

variable (long : volume.geometry.imageLength ≤ backing.content.size)

include long

theorem nextBlock_apply {block : Nat} (isData : volume.geometry.IsData block) :
    volume.nextBlock block backing = .ok (backing.content.next volume.geometry block) :=
  (nextBlock_decides long isData).answers (volume.nextBlock_judges backing isData)

/-- At a data block the walk goes on with the next one. -/
theorem walkChain_step (isData : volume.geometry.IsData current) :
    volume.walkChain first (budget + 1) current backing =
      (volume.walkChain first budget (backing.content.next volume.geometry current) backing).map
        (current :: ·) := by
  rw [walkChain.eq_def]
  dsimp only
  rw [if_neg (volume.geometry.ne_zero_of_isData isData), volume.checkDataBlock_of_isData isData]
  refine (Query.bind_ok (Query.lift_ok () backing)).trans ?_
  refine (Query.bind_ok (nextBlock_apply long isData)).trans ?_
  rw [Query.bind_apply]
  cases volume.walkChain first budget (backing.content.next volume.geometry current) backing <;> rfl

theorem walkChain_of_ends (ends : backing.content.EndsAfter volume.geometry current count)
    (enough : count ≤ budget) : volume.walkChain first budget current backing =
      .ok (backing.content.visits volume.geometry current count) := by
  induction count generalizing current budget with
  | zero =>
      obtain rfl : current = 0 := ends.ends
      rw [walkChain.eq_def]
      rfl
  | succ count induction =>
      obtain ⟨budget, rfl⟩ : ∃ less, budget = less + 1 := ⟨budget - 1, by omega⟩
      have here : volume.geometry.IsData current := ends.stays 0 (Nat.succ_pos count)
      rw [walkChain_step long here,
        induction ends.tail (Nat.le_of_succ_le_succ enough), Content.visits_succ]
      rfl

theorem walkChain_of_leaves (leaves : backing.content.LeavesAfter volume.geometry current count)
    (enough : count ≤ budget) : volume.walkChain first budget current backing =
      .error (.failed (.corrupt (backing.content.met volume.geometry current count)
        (.notDataBlock volume.geometry.dataStart volume.geometry.totalBlocks))) := by
  induction count generalizing current budget with
  | zero =>
      have nonzero : current ≠ 0 := leaves.nonzero
      have outside : ¬ volume.geometry.IsData current := leaves.outside
      rw [walkChain.eq_def]
      dsimp only
      rw [if_neg nonzero, volume.checkDataBlock_of_not_isData outside]
      rfl
  | succ count induction =>
      obtain ⟨budget, rfl⟩ : ∃ less, budget = less + 1 := ⟨budget - 1, by omega⟩
      have here : volume.geometry.IsData current := leaves.stays 0 (Nat.succ_pos count)
      rw [walkChain_step long here,
        induction leaves.tail (Nat.le_of_succ_le_succ enough), Content.met_succ]
      rfl

theorem walkChain_of_circles (circles : backing.content.Circles volume.geometry current) :
    volume.walkChain first budget current backing =
      .error (.failed (.corrupt (backing.content.met volume.geometry current budget)
        (.chainLoops first))) := by
  induction budget generalizing current with
  | zero =>
      have isData : volume.geometry.IsData current := circles 0
      rw [walkChain.eq_def]
      dsimp only
      rw [if_neg (volume.geometry.ne_zero_of_isData isData),
        volume.checkDataBlock_of_isData isData]
      rfl
  | succ budget induction =>
      have onward : backing.content.Circles volume.geometry
          (backing.content.next volume.geometry current) := by
        intro count
        rw [← Content.met_succ]
        exact circles (count + 1)
      have here : volume.geometry.IsData current := circles 0
      rw [walkChain_step long here, induction onward, Content.met_succ]
      rfl

theorem chain_of_ends (ends : backing.content.EndsAfter volume.geometry first count) :
    volume.chain first backing = .ok (backing.content.visits volume.geometry first count) :=
  walkChain_of_ends long ends (Content.count_le_blocks ends.stays ends.stops)

theorem chain_of_leaves (leaves : backing.content.LeavesAfter volume.geometry first count) :
    volume.chain first backing =
      .error (.failed (.corrupt (backing.content.met volume.geometry first count)
        (.notDataBlock volume.geometry.dataStart volume.geometry.totalBlocks))) :=
  walkChain_of_leaves long leaves (Content.count_le_blocks leaves.stays leaves.outside)

theorem chain_of_circles (circles : backing.content.Circles volume.geometry first) :
    volume.chain first backing =
      .error (.failed (.corrupt (backing.content.met volume.geometry first volume.geometry.blocks)
        (.chainLoops first))) :=
  walkChain_of_circles long circles

theorem chain_ending (first : Nat) :
    backing.content.WalkEnding volume.geometry first (volume.chain first backing) := by
  rcases backing.content.exists_fate volume.geometry first with
    ⟨count, ends⟩ | ⟨count, leaves⟩ | circles
  · rw [chain_of_ends long ends]
    exact .ends ends
  · rw [chain_of_leaves long leaves]
    exact .leaves leaves
  · rw [chain_of_circles long circles]
    exact .circles circles

end Long

/-- A walk ends by where the links lead, after reading no more links than there are data blocks. -/
theorem chain_exact (long : volume.geometry.imageLength ≤ backing.content.size) (first : Nat) :
    let content := backing.content
    let geometry := volume.geometry
    let program := volume.walker first geometry.blocks first
    (program.run volume = volume.chain first ∧
      ∀ next, (program.asked next).length ≤ geometry.blocks) ∧
    (∀ blocks, volume.chain first backing = .ok blocks ↔
      ∃ count, content.EndsAfter geometry first count ∧
        blocks = content.visits geometry first count) ∧
    (∀ blocks, volume.chain first backing = .ok blocks →
      blocks.Nodup ∧ blocks.length ≤ geometry.blocks) ∧
    ((∃ block origin, volume.chain first backing =
        .error (.failed (.corrupt block (.chainLoops origin)))) ↔
      content.Circles geometry first) ∧
    (∀ number start stop, volume.chain first backing =
        .error (.failed (.corrupt number (.notDataBlock start stop))) ↔
      (start = geometry.dataStart ∧ stop = geometry.totalBlocks) ∧
        ∃ count, content.LeavesAfter geometry first count ∧
          number = content.met geometry first count) ∧
    content.WalkEnding geometry first (volume.chain first backing) := by
  intro content geometry program
  have ending := chain_ending long first
  refine ⟨⟨run_walker .., fun next => length_asked_walker ..⟩, fun blocks => ⟨?_, ?_⟩,
    fun blocks walked => ?_, ⟨?_, ?_⟩, fun number start stop => ⟨?_, ?_⟩, ending⟩
  · intro walked
    rw [walked] at ending
    cases ending with
    | ends ends => exact ⟨_, ends, rfl⟩
  · rintro ⟨count, ends, rfl⟩
    exact chain_of_ends long ends
  · rw [walked] at ending
    cases ending with
    | @ends count ends =>
        have bound := Content.count_le_blocks ends.stays ends.stops
        exact ⟨Content.nodup_visits ends.stays ends.stops, by rwa [Content.length_visits]⟩
  · rintro ⟨block, origin, walked⟩
    rw [walked] at ending
    cases ending with
    | circles circles => exact circles
  · intro circles
    exact ⟨_, _, chain_of_circles long circles⟩
  · intro walked
    rw [walked] at ending
    cases ending with
    | leaves leaves => exact ⟨⟨rfl, rfl⟩, _, leaves, rfl⟩
  · rintro ⟨⟨rfl, rfl⟩, count, leaves, rfl⟩
    exact chain_of_leaves long leaves

/-- A file of zeros but for two links: one of the anchor to itself, one of the second data block to a
number behind the image. -/
def tangled : Backing where
  content := ((Content.empty.resize Session.roomy.imageLength).write
    (Area.first Session.roomy (.link (Session.roomy.blockOfBit 0)))
    (.ofNat 8 (Session.roomy.blockOfBit 0))).write
      (Area.first Session.roomy (.link (Session.roomy.blockOfBit 1))) (.ofNat 8 7)
  locks := []

theorem tangled_long : Session.roomy.imageLength ≤ tangled.content.size := by
  unfold tangled
  dsimp only
  have first := Content.size_write_of_fits (Content.empty.resize Session.roomy.imageLength)
    (show Area.first Session.roomy (.link (Session.roomy.blockOfBit 0)) +
      (Bytes.ofNat 8 (Session.roomy.blockOfBit 0)).length ≤ Session.roomy.imageLength by decide)
  rw [Content.size_write_of_fits, first]
  · exact Nat.le_refl _
  · rw [first]
    decide

theorem tangled_next : tangled.content.next Session.roomy 3 = 3 ∧
    tangled.content.next Session.roomy 4 = 7 ∧ tangled.content.next Session.roomy 5 = 0 := by
  have none : (Disk.of Session.roomy (Content.empty.resize Session.roomy.imageLength)).link 5 = 0 := by
    decide +kernel
  have links : (Disk.of Session.roomy tangled.content).link = Function.update (Function.update
      (Disk.of Session.roomy (Content.empty.resize Session.roomy.imageLength)).link 3 3) 4 7 := by
    unfold tangled
    dsimp only
    rw [Disk.of_write_link _ (by decide) (by decide), Disk.of_write_link _ (by decide) (by decide)]
    rfl
  rw [← Content.link_of_isData (by decide), ← Content.link_of_isData (by decide),
    ← Content.link_of_isData (by decide), links]
  refine ⟨?_, ?_, ?_⟩
  · rw [Function.update_of_ne (by decide), Function.update_self]
  · rw [Function.update_self]
  · rw [Function.update_of_ne (by decide), Function.update_of_ne (by decide), none]

theorem chain_exact_tangled :
    Session.roomy.imageLength ≤ tangled.content.size ∧
    (Session.roomy.volume 0).chain 5 tangled = .ok [5] ∧
    (∃ block origin, (Session.roomy.volume 0).chain 3 tangled =
      .error (.failed (.corrupt block (.chainLoops origin)))) ∧
    (Session.roomy.volume 0).chain 4 tangled =
      .error (.failed (.corrupt 7 (.notDataBlock 3 6))) := by
  obtain ⟨toSelf, outward, toZero⟩ := tangled_next
  obtain ⟨-, walks, -⟩ := @chain_exact (Session.roomy.volume 0) tangled tangled_long 5
  obtain ⟨-, -, -, loops, -⟩ := @chain_exact (Session.roomy.volume 0) tangled tangled_long 3
  obtain ⟨-, -, -, -, leaves, -⟩ := @chain_exact (Session.roomy.volume 0) tangled tangled_long 4
  have zero : tangled.content.met Session.roomy 5 1 = 0 :=
    (Content.met_succ.trans Content.met_zero).trans toZero
  have seven : tangled.content.met Session.roomy 4 1 = 7 :=
    (Content.met_succ.trans Content.met_zero).trans outward
  have ends : tangled.content.EndsAfter Session.roomy 5 1 := by
    refine ⟨?_, zero⟩
    intro earlier before
    rw [Nat.lt_one_iff.mp before, Content.met_zero]
    decide
  have out : tangled.content.LeavesAfter Session.roomy 4 1 := by
    refine ⟨?_, by rw [seven]; decide, by rw [seven]; decide⟩
    intro earlier before
    rw [Nat.lt_one_iff.mp before, Content.met_zero]
    decide
  refine ⟨tangled_long, (walks [5]).mpr ⟨1, ends, rfl⟩, loops.mpr ?_,
    (leaves 7 3 6).mpr ⟨by decide, 1, out, seven.symm⟩⟩
  intro count
  have fixed : tangled.content.met Session.roomy 3 count = 3 := Function.iterate_fixed toSelf count
  change Session.roomy.IsData (tangled.content.met Session.roomy 3 count)
  rw [fixed]
  decide

end Volume

end ImageFs
