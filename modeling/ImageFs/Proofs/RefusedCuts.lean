import ImageFs.Proofs.Resizing

/-!
Cuts whose blocks are refused. A chain is cut before the blocks behind the cut are judged, and a refusal
does not undo it. Main statement: when the blocks of a cut are refused, the kept blocks are linked to
nothing behind them all the same, so that the file is the old one only where nothing followed them.
-/

namespace ImageFs

open Function (update)

variable {volume : Volume} {backing final : Backing} {first length : Nat} {chain kept : List Nat}

/-- The file after a refused cut: the last of the kept blocks is linked to nothing, and no other byte
has changed. -/
structure CutShort (volume : Volume) (backing final : Backing) (kept : List Nat) : Prop where
  usable : volume.Usable final
  unlinked : ∀ last, kept.getLast? = some last → final.content.next volume.geometry last = 0
  elsewhere : backing.content.SameBut volume.geometry (kept.getLast?.toList.map .link) final.content

/-- Nothing follows the blocks: there are none, or the last of them is linked to nothing. -/
def EndsWith (volume : Volume) (backing : Backing) (blocks : List Nat) : Prop :=
  ∀ last, blocks.getLast? = some last → backing.content.next volume.geometry last = 0

namespace CutShort

theorem of_becomes (isData : ∀ block ∈ kept, volume.geometry.IsData block)
    (becomes : backing.Becomes volume final
      { Disk.of volume.geometry backing.content with
        link := relinkLast (Disk.of volume.geometry backing.content).link kept 0 }) :
    CutShort volume backing final kept where
  usable := becomes.usable
  unlinked last isLast := by
    rw [← Content.link_of_isData (isData last (List.mem_of_getLast? isLast)), becomes.shows]
    dsimp only
    rw [relinkLast, isLast]
    exact Function.update_self ..
  elsewhere := by
    apply Disk.sameBut becomes.size becomes.holders (by rw [becomes.shows])
    intro area elsewhere
    rw [becomes.shows]
    cases area with
    | link block =>
        dsimp only [Disk.AgreeOn]
        rw [relinkLast]
        cases isLast : kept.getLast? with
        | none => rfl
        | some last =>
            apply Function.update_of_ne
            rintro rfl
            apply elsewhere
            simp [isLast]
    | holders => trivial
    | _ => rfl

theorem content_eq_iff (cut : CutShort volume backing final kept) :
    final.content = backing.content ↔ EndsWith volume backing kept := by
  constructor
  · intro same last isLast
    rw [← same]
    exact cut.unlinked last isLast
  · intro ends
    apply Content.eq_of_bytes cut.elsewhere.size
    intro position
    by_cases covered : ∃ last, kept.getLast? = some last ∧
        (Area.link last).Covers volume.geometry position
    · obtain ⟨last, isLast, covers⟩ := covered
      have same : final.content.area volume.geometry (.link last) =
          backing.content.area volume.geometry (.link last) :=
        Disk.area_eq_of_toNat_eq ((cut.unlinked last isLast).trans (ends last isLast).symm)
      exact Content.byte_of_read same covers.1 covers.2
    · apply cut.elsewhere.bytes
      intro area member covers
      obtain ⟨last, isLast, rfl⟩ := List.mem_map.mp member
      exact covered ⟨last, Option.mem_toList.mp isLast, covers⟩

end CutShort

/-! Running into a refusal -/

theorem Geometry.blocksFor_mul (geometry : Geometry) (count : Nat) :
    geometry.blocksFor (count * geometry.payloadSize) = count := by
  have positive := geometry.payloadSize_pos
  unfold blocksFor ceilDiv
  rw [show count * geometry.payloadSize + geometry.payloadSize - 1 =
    geometry.payloadSize - 1 + geometry.payloadSize * count by
      rw [Nat.mul_comm]
      omega, Nat.add_mul_div_left _ _ positive, Nat.div_eq_of_lt (by omega), Nat.zero_add]

namespace Volume

/-- Shrinking fails exactly when the blocks behind the cut cannot be freed, and then they are cut off
nevertheless. -/
theorem shrinkChain_refusal (usable : volume.Usable backing)
    (isData : ∀ block ∈ chain, volume.geometry.IsData block) (length : Nat) :
    let kept := volume.geometry.blocksFor length
    ∃ outcome rest final, volume.shrinkChain chain length backing = (.ok (outcome, rest), final) ∧
      ((∃ error, outcome = .error error) ↔ kept < chain.length ∧
        ¬ (Disk.of volume.geometry backing.content).Freeable volume.geometry (chain.drop kept)) ∧
      ∀ error, outcome = .error error →
        rest = chain.take kept ∧ rest ≠ chain ∧ CutShort volume backing final rest := by
  intro kept
  rw [shrinkChain_eq]
  rcases Nat.lt_or_ge kept chain.length with less | fits
  · rw [if_neg (Nat.not_le.mpr less)]
    by_cases freeable : (Disk.of volume.geometry backing.content).Freeable volume.geometry
        (chain.drop kept)
    · obtain ⟨final, ends, -⟩ :=
        (cutChain_settles isData less freeable).attempt backing usable rfl
      use .ok (), chain.take kept, final, Update.bind_ok ends
      simp [freeable]
    · obtain ⟨block, damage, refuses⟩ := cutChain_settles_error isData less freeable
      obtain ⟨final, ends, becomes⟩ := refuses.attempt backing usable rfl
      use .error (.corrupt block damage), chain.take kept, final, Update.bind_ok ends
      constructor
      · exact iff_of_true ⟨_, rfl⟩ ⟨less, freeable⟩
      · intro error _
        have shorter : chain.take kept ≠ chain := by
          intro same
          have lengths := congrArg List.length same
          rw [List.length_take] at lengths
          omega
        have isData' : ∀ block ∈ chain.take kept, volume.geometry.IsData block :=
          fun block member => isData block (List.mem_of_mem_take member)
        exact ⟨rfl, shorter, .of_becomes isData' becomes⟩
  · rw [if_pos fits]
    use .ok (), chain, backing, rfl
    simp [Nat.not_lt.mpr fits]

theorem freeTail_refusal (usable : volume.Usable backing)
    (walked : volume.chain first backing = .ok chain) :
    ((∃ halt final, volume.freeTail first backing = (.error halt, final)) ↔
      ∀ last, chain.getLast? = some last →
        ¬ (Disk.of volume.geometry backing.content).Freeable volume.geometry [last]) ∧
    ∀ halt final, volume.freeTail first backing = (.error halt, final) →
      CutShort volume backing final chain.dropLast := by
  have isData := (Content.chain?_eq_some.mp ((volume.chain_judges backing first).value walked)).isData
  rcases List.eq_nil_or_concat chain with rfl | ⟨front, last, rfl⟩
  · have chained : (liftM (volume.chain first) : Update (List Nat)) backing = (.ok [], backing) := by
      rw [Update.lift_apply, walked]
    have refuses : volume.freeTail first backing =
        (.error (.failed (.corrupt first .emptyChain)), backing) := by
      rw [freeTail_eq, Update.bind_ok chained]
      rfl
    constructor
    · exact iff_of_true ⟨_, _, refuses⟩ (by simp)
    · intro halt final ends
      rw [refuses] at ends
      cases ends
      exact ⟨usable, by simp, ⟨rfl, fun _ _ => rfl⟩⟩
  · rw [List.concat_eq_append] at walked isData ⊢
    let length := front.length * volume.geometry.payloadSize
    have oneLess : volume.geometry.blocksFor length = front.length :=
      volume.geometry.blocksFor_mul front.length
    have some : front ++ [last] ≠ [] := by simp
    obtain ⟨outcome, final, shrank, cutTail⟩ :=
      freeTail_of_shrinkChain usable walked some (oneLess.trans (by simp))
    obtain ⟨outcome', rest, final', shrank', fails, cut⟩ := shrinkChain_refusal usable isData length
    rw [shrank] at shrank'
    cases shrank'
    rw [oneLess, List.drop_left] at fails
    rw [List.dropLast_concat] at cut ⊢
    rw [cutTail]
    constructor
    · simp only [List.getLast?_concat, Option.some.injEq, forall_eq']
      simp only [List.length_append, List.length_singleton, Nat.lt_add_one, true_and] at fails
      rw [← fails]
      cases outcome <;> simp [Except.map, Except.mapError]
    · intro halt after ends
      cases outcome with
      | ok _ => simp [Except.map, Except.mapError] at ends
      | error error =>
          cases ends
          exact (cut error rfl).2.2

/-- The link of the block in front of the last one leads to it. -/
theorem endsWith_dropLast_iff (walked : volume.chain first backing = .ok chain) :
    EndsWith volume backing chain.dropLast ↔ chain.length ≤ 1 := by
  have isChain := Content.chain?_eq_some.mp ((volume.chain_judges backing first).value walked)
  rcases List.eq_nil_or_concat chain with rfl | ⟨front, last, rfl⟩
  · simp [EndsWith]
  rw [List.concat_eq_append] at isChain ⊢
  have linked := isChain.linked
  have nonzero : last ≠ 0 := volume.geometry.ne_zero_of_isData (isChain.isData last (by simp))
  rw [List.dropLast_concat, List.length_append, List.length_singleton]
  cases isTail : front.getLast? with
  | none =>
      have empty := List.getLast?_eq_none_iff.mp isTail
      subst empty
      simp [EndsWith]
  | some tail =>
      have positive := List.length_pos_of_mem (List.mem_of_getLast? isTail)
      apply iff_of_false
      · intro ends
        exact nonzero ((linked.next_of_getLast? isTail).symm.trans (ends tail isTail))
      · omega

/-- Whatever the bitmap, the counters and the links are: a cut whose blocks are refused has been made
nevertheless, on the disk and in the list of blocks. -/
theorem refused_cuts (usable : volume.Usable backing) :
    let disk := Disk.of volume.geometry backing.content
    (∀ chain length, (∀ block ∈ chain, volume.geometry.IsData block) →
      let kept := volume.geometry.blocksFor length
      ∃ outcome rest final, volume.shrinkChain chain length backing = (.ok (outcome, rest), final) ∧
        ((∃ error, outcome = .error error) ↔
          kept < chain.length ∧ ¬ disk.Freeable volume.geometry (chain.drop kept)) ∧
        ∀ error, outcome = .error error →
          rest = chain.take kept ∧ rest ≠ chain ∧ CutShort volume backing final rest ∧
            (final.content = backing.content ↔ EndsWith volume backing rest)) ∧
    ∀ first chain, volume.chain first backing = .ok chain →
      ((∃ halt final, volume.freeTail first backing = (.error halt, final)) ↔
        ∀ last, chain.getLast? = some last → ¬ disk.Freeable volume.geometry [last]) ∧
      ∀ halt final, volume.freeTail first backing = (.error halt, final) →
        CutShort volume backing final chain.dropLast ∧
          (final.content = backing.content ↔ chain.length ≤ 1) := by
  intro disk
  constructor
  · intro chain length isData kept
    obtain ⟨outcome, rest, final, ends, fails, cut⟩ := shrinkChain_refusal usable isData length
    refine ⟨outcome, rest, final, ends, fails, fun error isError => ?_⟩
    obtain ⟨isRest, shorter, short⟩ := cut error isError
    exact ⟨isRest, shorter, short, short.content_eq_iff⟩
  · intro first chain walked
    obtain ⟨fails, cut⟩ := freeTail_refusal usable walked
    refine ⟨fails, fun halt final ends => ?_⟩
    have short := cut halt final ends
    exact ⟨short, short.content_eq_iff.trans (endsWith_dropLast_iff walked)⟩

/-- A file of zeros but for a link from the second data block to the third. -/
def unmarked : Backing where
  content := (Content.empty.resize Session.roomy.imageLength).write
    (Area.first Session.roomy (.link (Session.roomy.blockOfBit 1)))
    (.ofNat 8 (Session.roomy.blockOfBit 2))
  locks := []

theorem unmarked_disk : Disk.of Session.roomy unmarked.content =
    { Disk.of Session.roomy (Content.empty.resize Session.roomy.imageLength) with
      link := update (Disk.of Session.roomy (Content.empty.resize Session.roomy.imageLength)).link
        (Session.roomy.blockOfBit 1) (Session.roomy.blockOfBit 2) } :=
  Disk.of_write_link _ (by decide) (by decide)

theorem unmarked_linked : Linked (Disk.of Session.roomy unmarked.content).link
    [Session.roomy.blockOfBit 1, Session.roomy.blockOfBit 2] := by
  have clear : (Disk.of Session.roomy (Content.empty.resize Session.roomy.imageLength)).link
      (Session.roomy.blockOfBit 2) = 0 := by
    decide +kernel
  have apart : Session.roomy.blockOfBit 2 ≠ Session.roomy.blockOfBit 1 := by
    decide
  rw [unmarked_disk]
  dsimp only
  constructor
  · apply Function.update_self
  · exact ⟨(Function.update_of_ne apart ..).trans clear, trivial⟩

theorem unmarked_usable : (Session.roomy.volume 0).Usable unmarked where
  long := by
    rw [unmarked, Content.size_write_of_fits _ (by decide)]
    exact Nat.le_refl _
  addressable := by decide
  unhindered := rfl

theorem refused_cuts_unmarked :
    let chain := [Session.roomy.blockOfBit 1, Session.roomy.blockOfBit 2]
    (Session.roomy.volume 0).Usable unmarked ∧
    (∃ error final, (Session.roomy.volume 0).shrinkChain chain 1 unmarked =
        (.ok (.error error, [Session.roomy.blockOfBit 1]), final) ∧
      final.content ≠ unmarked.content) ∧
    ∃ halt final, (Session.roomy.volume 0).freeTail (Session.roomy.blockOfBit 1) unmarked =
        (.error halt, final) ∧
      unmarked.content.next Session.roomy (Session.roomy.blockOfBit 1) = Session.roomy.blockOfBit 2 ∧
      final.content.next Session.roomy (Session.roomy.blockOfBit 1) = 0 := by
  intro chain
  have isData : ∀ block ∈ chain, Session.roomy.IsData block := by
    decide
  have linked : unmarked.content.next Session.roomy (Session.roomy.blockOfBit 1) =
      Session.roomy.blockOfBit 2 :=
    (Content.link_of_isData (isData _ List.mem_cons_self)).symm.trans unmarked_linked.1
  have walked := chain_of_linked unmarked_usable isData (by decide) unmarked_linked
  have refused : ¬ (Disk.of Session.roomy unmarked.content).Freeable Session.roomy
      [Session.roomy.blockOfBit 2] := by
    intro freeable
    have marked := freeable.marked _ (List.mem_singleton.mpr rfl)
    rw [unmarked_disk] at marked
    exact absurd marked (by decide +kernel)
  obtain ⟨shrinks, cuts⟩ := refused_cuts unmarked_usable
  obtain ⟨outcome, rest, final, shrank, fails, short⟩ := shrinks chain 1 isData
  obtain ⟨error, isError⟩ := fails.mpr ⟨by decide, refused⟩
  obtain ⟨isRest, -, -, same⟩ := short error isError
  obtain ⟨failsTail, shortTail⟩ := cuts _ _ walked
  obtain ⟨halt, final', cut⟩ := failsTail.mpr fun last isLast => by
    cases isLast
    exact refused
  refine ⟨unmarked_usable, ⟨error, final, ?_, ?_⟩, halt, final', cut, linked, ?_⟩
  · rw [shrank, isError, isRest]
    rfl
  · intro equal
    have ends := same.mp equal (Session.roomy.blockOfBit 1) (by rw [isRest]; rfl)
    exact absurd (linked.symm.trans ends) (by decide)
  · exact (shortTail halt final' cut).1.unlinked _ rfl

end Volume

end ImageFs
