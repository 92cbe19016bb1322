import ImageFs.Proofs.HandingOut

/-!
Growing and cutting the chains of a usable file. Main statements: a resized list of blocks is the chain
that the file then has, with the old payloads kept and the new ones cleared, the other chains stay as
they are, and cutting off the last block leaves the file that shrinking by one block leaves.
-/

namespace ImageFs

variable {volume : Volume} {backing final : Backing} {before after : Disk} {first kept length : Nat}
  {chain other bits : List Nat}

/-! Runs on usable files -/

namespace Volume

theorem linkLast_settles {blocks : List Nat} {next : Nat}
    (isData : ∀ block ∈ blocks, volume.geometry.IsData block) (bound : next < Limit.word64) :
    Settles volume (volume.linkLast blocks next) before (.ok ())
      { before with link := relinkLast before.link blocks next } := by
  refine .of_leads (linkLast_leads isData bound) fun others => ?_
  rw [linkLast]
  cases blocks.getLast? with
  | some last => exact (linkBlock_heeds last next).beside
  | none => exact fun _ => rfl

theorem growChain_settles (isData : ∀ block ∈ chain, volume.geometry.IsData block)
    (more : chain.length < volume.geometry.blocksFor length)
    (hasFree : before.HasFree volume.geometry (volume.geometry.blocksFor length - chain.length)) :
    let bits := before.nextBits volume.geometry (volume.geometry.blocksFor length - chain.length)
    Settles volume (volume.growChain chain length) before
      (.ok (chain ++ bits.map volume.geometry.blockOfBit))
      (before.extend volume.geometry chain bits) := by
  intro bits
  rw [growChain_eq]
  refine Settles.ite_neg (Nat.not_le.mpr more) ?_
  refine (allocate_settles (by omega) hasFree).bind ?_
  refine (linkLast_settles isData ?_).bind (.pure _)
  exact volume.geometry.headD_lt_word64 Disk.isData_of_nextBits

theorem growChain_settles_error (more : chain.length < volume.geometry.blocksFor length)
    (few : ¬ before.HasFree volume.geometry (volume.geometry.blocksFor length - chain.length)) :
    Settles volume (volume.growChain chain length) before (.error .noFreeBlocks) before := by
  rw [growChain_eq]
  exact Settles.ite_neg (Nat.not_le.mpr more) (allocate_settles_error (by omega) few).bind_error

theorem cutChain_settles (isData : ∀ block ∈ chain, volume.geometry.IsData block)
    (some : kept < chain.length) (freeable : before.Freeable volume.geometry (chain.drop kept)) :
    Settles volume (volume.cutChain chain kept) before (.ok ())
      (before.cut volume.geometry chain kept) := by
  have isData' : ∀ block ∈ chain.take kept, volume.geometry.IsData block :=
    fun block member => isData block (List.mem_of_mem_take member)
  have freeable' : Disk.Freeable volume.geometry
      { before with link := relinkLast before.link (chain.take kept) 0 } (chain.drop kept) :=
    ⟨freeable.isData, freeable.notAnchor, freeable.nodup, freeable.marked, freeable.room⟩
  refine (linkLast_settles isData' (Nat.succ_pos _)).bind (free_settles ?_ freeable')
  exact List.ne_nil_of_length_pos (by rw [List.length_drop]; omega)

theorem cutChain_settles_error (isData : ∀ block ∈ chain, volume.geometry.IsData block)
    (some : kept < chain.length)
    (refused : ¬ before.Freeable volume.geometry (chain.drop kept)) :
    ∃ block damage, Settles volume (volume.cutChain chain kept) before
      (.error (.corrupt block damage))
      { before with link := relinkLast before.link (chain.take kept) 0 } := by
  have isData' : ∀ block ∈ chain.take kept, volume.geometry.IsData block :=
    fun block member => isData block (List.mem_of_mem_take member)
  have refused' : ¬ Disk.Freeable volume.geometry
      { before with link := relinkLast before.link (chain.take kept) 0 } (chain.drop kept) :=
    fun freeable => refused
      ⟨freeable.isData, freeable.notAnchor, freeable.nodup, freeable.marked, freeable.room⟩
  obtain ⟨block, damage, refuses⟩ :=
    free_settles_error (List.ne_nil_of_length_pos (by rw [List.length_drop]; omega)) refused'
  exact ⟨block, damage, (linkLast_settles isData' (Nat.succ_pos _)).bind refuses⟩

end Volume

/-! Chains of the file -/

/-- The blocks are the chain that the file has from `first` on, and their bits are set. -/
structure MarkedChain (volume : Volume) (backing : Backing) (first : Nat) (chain : List Nat) :
    Prop where
  walked : volume.chain first backing = .ok chain
  marked : ∀ block ∈ chain, Bitmap.get (backing.content.bitmap volume.geometry)
    (block - volume.geometry.dataStart) = true

namespace MarkedChain

theorem isChain (marked : MarkedChain volume backing first chain) :
    backing.content.IsChain volume.geometry first chain :=
  Content.chain?_eq_some.mp ((volume.chain_judges backing first).value marked.walked)

theorem linked (marked : MarkedChain volume backing first chain) :
    Linked (Disk.of volume.geometry backing.content).link chain :=
  marked.isChain.linked.congr fun block member =>
    Content.link_of_isData (marked.isChain.isData block member)

/-- Fresh blocks are in no chain whose bits are set. -/
theorem notMem_fresh (marked : MarkedChain volume backing first chain) {block count : Nat}
    (member : block ∈ chain) :
    block ∉ ((Disk.of volume.geometry backing.content).nextBits volume.geometry count).map
      volume.geometry.blockOfBit := by
  intro isFresh
  obtain ⟨bit, isBit, rfl⟩ := List.mem_map.mp isFresh
  have set := marked.marked _ member
  rw [Geometry.blockOfBit, Nat.add_sub_cancel_left] at set
  have clear : Bitmap.get (backing.content.bitmap volume.geometry) bit = false :=
    (Disk.nextBits_usable isBit).2
  rw [set] at clear
  cases clear

/-- Where the links and payloads of its blocks are the old ones, a chain is walked as before. -/
theorem stays (marked : MarkedChain volume backing first other)
    (becomes : backing.Becomes volume final after)
    (links : ∀ block ∈ other, after.link block = (Disk.of volume.geometry backing.content).link block)
    (payloads : ∀ block ∈ other,
      after.payload block = (Disk.of volume.geometry backing.content).payload block) :
    volume.chain first final = .ok other ∧ ∀ block ∈ other,
      final.content.payload volume.geometry block = backing.content.payload volume.geometry block := by
  have isChain := marked.isChain
  constructor
  · rw [← isChain.head]
    refine Volume.chain_of_linked becomes.usable isChain.isData isChain.nodup ?_
    rw [becomes.shows]
    exact marked.linked.congr links
  · intro block member
    refine Content.payload_eq (isChain.isData block member) becomes.holders ?_
    rw [becomes.shows, payloads block member]

end MarkedChain

/-- Blocks that are handed out together are a chain whose bits are set. -/
theorem HandedOut.markedChain (handedOut : HandedOut volume backing final bits) :
    MarkedChain volume final ((bits.map volume.geometry.blockOfBit).headD 0)
      (bits.map volume.geometry.blockOfBit) where
  walked := handedOut.walked
  marked block member := by
    obtain ⟨bit, isBit, rfl⟩ := List.mem_map.mp member
    rw [Geometry.blockOfBit, Nat.add_sub_cancel_left, handedOut.marks, decide_eq_true isBit,
      Bool.or_true]

/-- Every other chain whose bits are set keeps its walk and its payloads. -/
def KeepsOthers (volume : Volume) (backing final : Backing) (chain : List Nat) : Prop :=
  ∀ first other, MarkedChain volume backing first other → (∀ block ∈ other, block ∉ chain) →
    volume.chain first final = .ok other ∧ ∀ block ∈ other,
      final.content.payload volume.geometry block = backing.content.payload volume.geometry block

theorem KeepsOthers.refl (volume : Volume) (backing : Backing) (chain : List Nat) :
    KeepsOthers volume backing backing chain :=
  fun _ _ marked _ => ⟨marked.walked, fun _ _ => rfl⟩

/-! Growing -/

/-- What growing a chain leaves. -/
structure Grown (volume : Volume) (backing final : Backing) (chain : List Nat) (length : Nat)
    (grown : List Nat) : Prop where
  count : grown.length = max chain.length (volume.geometry.blocksFor length)
  front : chain <+: grown
  walked : volume.chain (grown.headD 0) final = .ok grown
  payloads : ∀ block ∈ chain,
    final.content.payload volume.geometry block = backing.content.payload volume.geometry block
  cleared : ∀ block ∈ grown.drop chain.length,
    final.content.payload volume.geometry block = .zeros volume.geometry.payloadSize
  others : KeepsOthers volume backing final chain

theorem Grown.refl (marked : MarkedChain volume backing first chain)
    (fits : volume.geometry.blocksFor length ≤ chain.length) :
    Grown volume backing backing chain length chain where
  count := (Nat.max_eq_left fits).symm
  front := List.prefix_refl chain
  walked := by rw [marked.isChain.head, marked.walked]
  payloads _ _ := rfl
  cleared := by simp
  others := .refl volume backing chain

theorem MarkedChain.grown (marked : MarkedChain volume backing first chain)
    (more : chain.length < volume.geometry.blocksFor length)
    (shows : Disk.of volume.geometry backing.content = before)
    (hasFree : before.HasFree volume.geometry (volume.geometry.blocksFor length - chain.length))
    (isBits : before.nextBits volume.geometry (volume.geometry.blocksFor length - chain.length) = bits)
    (becomes : backing.Becomes volume final (before.extend volume.geometry chain bits)) :
    Grown volume backing final chain length (chain ++ bits.map volume.geometry.blockOfBit) := by
  let fresh := bits.map volume.geometry.blockOfBit
  have isChain := marked.isChain
  have isData : ∀ block ∈ fresh, volume.geometry.IsData block := by
    subst isBits
    exact Disk.isData_of_nextBits
  have notAnchor : volume.geometry.anchorBlock ∉ fresh := by
    subst isBits
    exact Disk.anchorBlock_notMem_nextBits
  have nodup : fresh.Nodup := by
    subst isBits
    exact Disk.nodup_blocks_of_nextBits _
  have apart {first : Nat} {other : List Nat} (marked : MarkedChain volume backing first other)
      {block : Nat} (member : block ∈ other) : block ∉ fresh := by
    subst isBits shows
    exact marked.notMem_fresh member
  have nodup' : (chain ++ fresh).Nodup := List.nodup_append.mpr ⟨isChain.nodup, nodup,
    fun block old other new same => apart marked old (same ▸ new)⟩
  have linked : Linked before.link chain := by
    rw [← shows]
    exact marked.linked
  have others : KeepsOthers volume backing final chain := by
    intro first other marked' disjoint
    have elsewhere {block : Nat} (member : block ∈ other) : block ∉ chain ++ fresh :=
      List.not_mem_append (disjoint block member) (apart marked' member)
    refine marked'.stays becomes (fun block member => ?_) fun block member => ?_
    · rw [shows]
      exact Disk.link_extend_of_notMem (elsewhere member)
    · rw [shows]
      exact Disk.payload_extend_of_notMem (elsewhere member)
  have length' : fresh.length = volume.geometry.blocksFor length - chain.length := by
    rw [List.length_map, ← isBits, hasFree.length_nextBits]
  refine ⟨?_, List.prefix_append .., ?_, fun block member => ?_, ?_, others⟩
  · rw [List.length_append, length']
    omega
  · refine Volume.chain_of_linked becomes.usable (fun block member => ?_) nodup' ?_
    · exact (List.mem_append.mp member).elim (isChain.isData block) (isData block)
    · rw [becomes.shows]
      exact Disk.linked_extend linked nodup'
  · refine Content.payload_eq (isChain.isData block member) becomes.holders ?_
    rw [becomes.shows, shows]
    exact if_neg (apart marked member)
  · rw [List.drop_left]
    intro block member
    rw [← Content.payload_of_isData (isData block member) (ne_of_mem_of_not_mem member notAnchor),
      becomes.shows]
    exact if_pos member

theorem Volume.grown_of_growChain {grown : List Nat} (usable : volume.Usable backing)
    (marked : MarkedChain volume backing first chain)
    (ends : volume.growChain chain length backing = (.ok grown, final)) :
    Grown volume backing final chain length grown := by
  rcases Nat.lt_or_ge chain.length (volume.geometry.blocksFor length) with more | fits
  · by_cases hasFree : (Disk.of volume.geometry backing.content).HasFree volume.geometry
        (volume.geometry.blocksFor length - chain.length)
    · obtain ⟨final', ends', becomes⟩ :=
        growChain_settles marked.isChain.isData more hasFree backing usable rfl
      rw [ends'] at ends
      cases ends
      exact marked.grown more rfl hasFree rfl becomes
    · obtain ⟨final', ends', -⟩ := growChain_settles_error more hasFree backing usable rfl
      rw [ends'] at ends
      cases ends
  · rw [growChain_eq, if_pos fits] at ends
    cases ends
    exact .refl marked fits

/-! Cutting -/

/-- What cutting a chain leaves. -/
structure Shrunk (volume : Volume) (backing final : Backing) (chain : List Nat) (length : Nat)
    (kept : List Nat) : Prop where
  count : kept.length = min chain.length (volume.geometry.blocksFor length)
  front : kept <+: chain
  walked : volume.chain (kept.headD 0) final = .ok kept
  payloads : ∀ block ∈ kept,
    final.content.payload volume.geometry block = backing.content.payload volume.geometry block
  marks : ∀ bit, Bitmap.get (final.content.bitmap volume.geometry) bit =
    (Bitmap.get (backing.content.bitmap volume.geometry) bit &&
      !decide (volume.geometry.blockOfBit bit ∈ chain.drop kept.length))
  counted : (Disk.of volume.geometry final.content).counter .freeBlocks =
    (Disk.of volume.geometry backing.content).counter .freeBlocks + (chain.length - kept.length)
  others : KeepsOthers volume backing final chain

theorem Shrunk.refl (marked : MarkedChain volume backing first chain)
    (fits : chain.length ≤ volume.geometry.blocksFor length) :
    Shrunk volume backing backing chain length chain where
  count := (Nat.min_eq_left fits).symm
  front := List.prefix_refl chain
  walked := by rw [marked.isChain.head, marked.walked]
  payloads _ _ := rfl
  marks bit := by simp
  counted := by simp
  others := .refl volume backing chain

theorem MarkedChain.shrunk (marked : MarkedChain volume backing first chain)
    (less : volume.geometry.blocksFor length < chain.length)
    (shows : Disk.of volume.geometry backing.content = before)
    (becomes : backing.Becomes volume final
      (before.cut volume.geometry chain (volume.geometry.blocksFor length))) :
    Shrunk volume backing final chain length (chain.take (volume.geometry.blocksFor length)) := by
  let front := chain.take (volume.geometry.blocksFor length)
  let dropped := chain.drop (volume.geometry.blocksFor length)
  have isChain := marked.isChain
  have whole : front ++ dropped = chain := List.take_append_drop ..
  have count : front.length = volume.geometry.blocksFor length := by
    rw [List.length_take]
    omega
  have parts := isChain.nodup
  rw [← whole] at parts
  obtain ⟨nodup, -, apart⟩ := List.nodup_append.mp parts
  have notDropped {block : Nat} (member : block ∈ front) : block ∉ dropped :=
    fun inDropped => apart block member block inDropped rfl
  have isData : ∀ block ∈ front, volume.geometry.IsData block :=
    fun block member => isChain.isData block (List.mem_of_mem_take member)
  have isData' : ∀ block ∈ dropped, volume.geometry.IsData block :=
    fun block member => isChain.isData block (List.mem_of_mem_drop member)
  have others : KeepsOthers volume backing final chain := by
    intro first other marked' disjoint
    refine marked'.stays becomes (fun block member => ?_) fun block member => by rw [shows]; rfl
    have notFront : block ∉ front := fun inFront => disjoint block member (List.mem_of_mem_take inFront)
    have notDropped : block ∉ dropped :=
      fun inDropped => disjoint block member (List.mem_of_mem_drop inDropped)
    rw [shows]
    exact (if_neg notDropped).trans (relinkLast_of_notMem notFront)
  refine ⟨?_, List.take_prefix .., ?_, fun block member => ?_, fun bit => ?_, ?_, others⟩
  · rw [count]
    omega
  · refine Volume.chain_of_linked becomes.usable isData nodup ?_
    have nothing : Linked before.link [] := trivial
    have linked := marked.linked
    rw [shows, ← whole] at linked
    have joined := linked.join nothing nodup (by simp)
    rw [List.append_nil] at joined
    rw [becomes.shows]
    exact joined.congr fun block member => if_neg (notDropped member)
  · refine Content.payload_eq (isData block member) becomes.holders ?_
    rw [becomes.shows, shows]
    rfl
  · have bitmap : backing.content.bitmap volume.geometry = before.bitmap :=
      congrArg Disk.bitmap shows
    have cleared := Bitmap.get_clearAll (volume.geometry.bitsOf dropped) before.bitmap bit
    simp only [Geometry.mem_bitsOf isData'] at cleared
    rw [count, bitmap, ← cleared]
    exact congrArg (fun disk => Bitmap.get disk.bitmap bit) becomes.shows
  · rw [becomes.shows, shows, Disk.cut, Disk.takeBack_freeBlocks, List.length_drop, count]

theorem Volume.shrunk_of_shrinkChain {rest : List Nat} (usable : volume.Usable backing)
    (marked : MarkedChain volume backing first chain)
    (ends : volume.shrinkChain chain length backing = (.ok (.ok (), rest), final)) :
    Shrunk volume backing final chain length rest := by
  rcases Nat.lt_or_ge (volume.geometry.blocksFor length) chain.length with less | fits
  · rw [shrinkChain_eq, if_neg (Nat.not_le.mpr less)] at ends
    by_cases freeable : (Disk.of volume.geometry backing.content).Freeable volume.geometry
        (chain.drop (volume.geometry.blocksFor length))
    · obtain ⟨final', ends', becomes⟩ :=
        (cutChain_settles marked.isChain.isData less freeable).attempt backing usable rfl
      rw [Update.bind_ok ends'] at ends
      cases ends
      exact marked.shrunk less rfl becomes
    · obtain ⟨block, damage, refuses⟩ :=
        cutChain_settles_error marked.isChain.isData less freeable
      obtain ⟨final', ends', -⟩ := refuses.attempt backing usable rfl
      rw [Update.bind_ok ends'] at ends
      cases ends
  · rw [shrinkChain_eq, if_pos fits] at ends
    cases ends
    exact .refl marked fits

/-- Cutting the last block off leaves the file that shrinking by one block leaves, and ends as that
does. -/
theorem Volume.freeTail_of_shrinkChain (usable : volume.Usable backing)
    (walked : volume.chain first backing = .ok chain) (some : chain ≠ [])
    (oneLess : volume.geometry.blocksFor length = chain.length - 1) :
    ∃ outcome final,
      volume.shrinkChain chain length backing = (.ok (outcome, chain.dropLast), final) ∧
      volume.freeTail first backing =
        ((outcome.map fun _ => chain.dropLast.getLast?).mapError .failed, final) := by
  have isData := (Content.chain?_eq_some.mp ((volume.chain_judges backing first).value walked)).isData
  have positive := List.length_pos_iff.mpr some
  have settles : ∃ answer after, Settles volume (volume.cutChain chain (chain.length - 1))
      (Disk.of volume.geometry backing.content) answer after := by
    by_cases freeable : (Disk.of volume.geometry backing.content).Freeable volume.geometry
        (chain.drop (chain.length - 1))
    · exact ⟨_, _, cutChain_settles isData (by omega) freeable⟩
    · obtain ⟨block, damage, refuses⟩ := cutChain_settles_error isData (by omega) freeable
      exact ⟨_, _, refuses⟩
  obtain ⟨answer, after, settles⟩ := settles
  obtain ⟨final, ends, -⟩ := settles backing usable rfl
  have attempted : (volume.cutChain chain (chain.length - 1)).attempt backing =
      (.ok answer, final) := by
    rw [Update.attempt, ends]
    cases answer <;> rfl
  have chained : (liftM (volume.chain first) : Update (List Nat)) backing = (.ok chain, backing) := by
    rw [Update.lift_apply, walked]
  refine ⟨answer, final, ?_, ?_⟩
  · rw [shrinkChain_eq, if_neg (by omega), oneLess, List.dropLast_eq_take, Update.bind_ok attempted]
    rfl
  · rw [freeTail_eq, Update.bind_ok chained, if_neg some]
    cases answer with
    | ok _ => exact Update.bind_ok ends
    | error error => exact Update.bind_error ends

/-- A file of zeros but for a free count of two. -/
def spare : Backing where
  content := (Content.empty.resize Session.roomy.imageLength).write Superblock.freeBlocksOffset
    (.ofNat 8 2)
  locks := []

/-- The spare file when one of its free blocks has been handed out. -/
def halfSpare : Backing :=
  ((Session.roomy.volume 0).allocate 1 spare).2

theorem halfSpare_handedOut :
    spare.Becomes (Session.roomy.volume 0) halfSpare
      ((Disk.of (Session.roomy.volume 0).geometry spare.content).handOut
        (Session.roomy.volume 0).geometry [1]) ∧
    HandedOut (Session.roomy.volume 0) spare halfSpare [1] := by
  have usable : (Session.roomy.volume 0).Usable spare := ⟨by decide +kernel, by decide, rfl⟩
  have hasFree : (Disk.of (Session.roomy.volume 0).geometry spare.content).HasFree
      (Session.roomy.volume 0).geometry 1 := by
    constructor <;> decide +kernel
  have isBits : (Disk.of (Session.roomy.volume 0).geometry spare.content).nextBits
      (Session.roomy.volume 0).geometry 1 = [1] := by
    decide +kernel
  obtain ⟨final, ends, becomes⟩ := Volume.allocate_settles Nat.one_pos hasFree spare usable rfl
  have handedOut := hasFree.handedOut rfl becomes
  have isFinal : halfSpare = final := congrArg Prod.snd ends
  rw [isBits] at becomes handedOut
  rw [isFinal]
  exact ⟨becomes, handedOut⟩

/-- The block that was handed out can be given a second one, and that one can be taken back. -/
theorem halfSpare_extends :
    let geometry := (Session.roomy.volume 0).geometry
    let disk := Disk.of geometry halfSpare.content
    let longer := disk.extend geometry [geometry.blockOfBit 1] [2]
    disk.HasFree geometry 1 ∧ disk.nextBits geometry 1 = [2] ∧
      (∀ block ∈ [geometry.blockOfBit 1, geometry.blockOfBit 2],
        Bitmap.get longer.bitmap (block - geometry.dataStart) = true) ∧
      longer.Freeable geometry [geometry.blockOfBit 2] := by
  dsimp only
  rw [halfSpare_handedOut.1.shows]
  refine ⟨⟨?_, ?_⟩, ?_, ?_, ⟨?_, ?_, ?_, ?_, ?_⟩⟩ <;> decide +kernel

/-- Resizing keeps the list of a chain's blocks and the chain on the disk in step. -/
theorem Volume.resizing_in_step (usable : volume.Usable backing)
    (marked : MarkedChain volume backing first chain) (length : Nat) :
    (∀ grown final, volume.growChain chain length backing = (.ok grown, final) →
      Grown volume backing final chain length grown) ∧
    (∀ kept final, volume.shrinkChain chain length backing = (.ok (.ok (), kept), final) →
      Shrunk volume backing final chain length kept) ∧
    (chain ≠ [] → ∀ shorter, volume.geometry.blocksFor shorter = chain.length - 1 →
      ∃ outcome final,
        volume.shrinkChain chain shorter backing = (.ok (outcome, chain.dropLast), final) ∧
        volume.freeTail first backing =
          ((outcome.map fun _ => chain.dropLast.getLast?).mapError .failed, final)) :=
  ⟨fun _ _ ends => grown_of_growChain usable marked ends,
    fun _ _ ends => shrunk_of_shrinkChain usable marked ends,
    fun some _ oneLess => freeTail_of_shrinkChain usable marked.walked some oneLess⟩

theorem Volume.resizing_in_step_roomy :
    let volume := Session.roomy.volume 0
    let first := volume.geometry.blockOfBit 1
    let second := volume.geometry.blockOfBit 2
    ∃ grown shrunk,
      volume.growChain [first] 1017 halfSpare = (.ok [first, second], grown) ∧
      Grown volume halfSpare grown [first] 1017 [first, second] ∧
      volume.shrinkChain [first, second] 1016 grown = (.ok (.ok (), [first]), shrunk) ∧
      Shrunk volume grown shrunk [first, second] 1016 [first] ∧
      volume.freeTail first grown = (.ok (some first), shrunk) := by
  have needed : (Session.roomy.volume 0).geometry.blocksFor 1017 = 2 := by decide
  have enough : (Session.roomy.volume 0).geometry.blocksFor 1016 = 1 := by decide
  obtain ⟨becomes, handedOut⟩ := halfSpare_handedOut
  obtain ⟨hasFree, isBits, marks, freeable⟩ := halfSpare_extends
  intro volume first second
  have one : MarkedChain volume halfSpare first [first] := handedOut.markedChain
  have usable : volume.Usable halfSpare := becomes.usable
  -- A second block is handed out and linked behind the first.
  have missing : volume.geometry.blocksFor 1017 - [first].length = 1 := by rw [needed]; rfl
  obtain ⟨grown, grew, becomes'⟩ := growChain_settles one.isChain.isData
    (show [first].length < volume.geometry.blocksFor 1017 by rw [needed]; decide)
    (missing ▸ hasFree) halfSpare usable rfl
  rw [missing, isBits] at grew becomes'
  have isGrown := (resizing_in_step usable one 1017).1 _ _ grew
  have two : MarkedChain volume grown first [first, second] := by
    refine ⟨isGrown.walked, fun block member => ?_⟩
    rw [← marks block member]
    exact congrArg (fun disk => Bitmap.get disk.bitmap _) becomes'.shows
  -- The link is cut again, and the second block is taken back.
  obtain ⟨-, shrinks, cuts⟩ := resizing_in_step becomes'.usable two 1016
  obtain ⟨shrunk, ends, -⟩ := (cutChain_settles two.isChain.isData
    (show 1 < [first, second].length by decide) (becomes'.shows ▸ freeable)).attempt grown
    becomes'.usable rfl
  have shrank : volume.shrinkChain [first, second] 1016 grown = (.ok (.ok (), [first]), shrunk) := by
    rw [shrinkChain_eq, enough, if_neg (by decide)]
    exact Update.bind_ok ends
  obtain ⟨outcome, final, shrank', cut⟩ := cuts (List.cons_ne_nil _ _) 1016 enough
  rw [shrank] at shrank'
  cases shrank'
  exact ⟨grown, shrunk, grew, isGrown, shrank, shrinks _ _ shrank, cut⟩

end ImageFs
