import Mathlib.Data.List.Nodup
import Mathlib.Data.List.Perm.Subperm
import ImageFs.Volume.Chain
import ImageFs.Allocation
import ImageFs.Proofs.Hold

/-!
Chains as lists of blocks that are linked on the disk, and the byte stream of their payloads. Main
statements: walking a chain finds its blocks, reading gives a range of the stream, and writing overlays
the stream and leaves the payloads of other blocks alone.
-/

namespace ImageFs

open Function (update)

namespace Bytes

theorem drop_append_of_le {first second : Bytes} {offset : Nat} (behind : first.length ≤ offset) :
    (first ++ second).drop offset = second.drop (offset - first.length) := by
  rw [List.drop_append, List.drop_eq_nil_of_le behind, List.nil_append]

theorem overlay_append_of_le {first second : Bytes} {offset : Nat} (patch : Bytes)
    (behind : first.length ≤ offset) :
    (first ++ second).overlay offset patch =
      first ++ second.overlay (offset - first.length) patch := by
  rw [overlay, overlay, List.take_append, List.take_of_length_le behind,
    drop_append_of_le (by omega), List.append_assoc, List.append_assoc, List.append_assoc]
  congr 4
  omega

theorem overlay_append_of_lt {first second : Bytes} {offset : Nat} (patch : Bytes)
    (before : offset < first.length) :
    (first ++ second).overlay offset patch =
      first.overlay offset (patch.take (first.length - offset)) ++
        second.overlay 0 (patch.drop (first.length - offset)) := by
  rw [overlay, overlay, overlay, List.take_append_of_le_length (Nat.le_of_lt before),
    List.take_zero, List.nil_append, List.length_take, List.length_drop]
  rcases Nat.le_total patch.length (first.length - offset) with short | long
  · rw [List.take_of_length_le short, List.drop_eq_nil_of_le short, Nat.min_eq_right short,
      List.drop_append_of_le_length (by omega), Nat.sub_eq_zero_of_le short]
    simp
  · have ends : first.drop (offset + patch.length) = [] := List.drop_eq_nil_of_le (by omega)
    have ends' : first.drop (offset + (first.length - offset)) = [] :=
      List.drop_eq_nil_of_le (by omega)
    have back : offset + patch.length - first.length = 0 + (patch.length - (first.length - offset)) :=
      by omega
    rw [Nat.min_eq_left long, List.drop_append, ends, ends', back, List.nil_append, List.append_nil]
    simp only [List.append_assoc]
    rw [← List.append_assoc (patch.take _), List.take_append_drop]

theorem overlay_append_of_fits {first second : Bytes} {offset : Nat} {patch : Bytes}
    (fits : offset + patch.length ≤ first.length) :
    (first ++ second).overlay offset patch = first.overlay offset patch ++ second := by
  simp only [overlay]
  rw [List.take_append_of_le_length (by omega), List.drop_append_of_le_length fits,
    ← List.append_assoc]

/-- Patching with a first part and then behind it with a second one is patching with both. -/
theorem overlay_overlay {bytes : Bytes} {offset : Nat} (first second : Bytes)
    (inside : offset ≤ bytes.length) :
    (bytes.overlay offset first).overlay (offset + first.length) second =
      bytes.overlay offset (first ++ second) := by
  have length : (bytes.take offset ++ first).length = offset + first.length := by
    rw [List.length_append, List.length_take, Nat.min_eq_left inside]
  simp only [overlay]
  rw [List.take_left' length, ← List.drop_drop, List.drop_left' length, List.drop_drop,
    List.append_assoc _ first second, List.length_append, Nat.add_assoc]

/-- Where more bytes come in between, a second patch still goes on where the first one ends. -/
theorem overlay_append_overlay {bytes back : Bytes} {offset : Nat} {first second : Bytes}
    (fits : first ≠ [] → offset + first.length ≤ bytes.length) :
    (bytes.overlay offset first ++ back).overlay (offset + first.length) second =
      (bytes ++ back).overlay offset (first ++ second) := by
  by_cases none : first = []
  · simp [none, overlay_nil]
  · have inside := fits none
    rw [← overlay_append_of_fits inside, overlay_overlay]
    rw [List.length_append]
    omega

end Bytes

/-! Links -/

/-- Each block links to the one behind it, and the last one to none. -/
def Linked (link : Nat → Nat) : List Nat → Prop
  | [] => True
  | block :: rest => link block = rest.headD 0 ∧ Linked link rest

theorem Linked.congr {link link' : Nat → Nat} {blocks : List Nat}
    (same : ∀ block ∈ blocks, link' block = link block) (linked : Linked link blocks) :
    Linked link' blocks := by
  induction blocks with
  | nil => trivial
  | cons block rest induction =>
      refine ⟨(same block List.mem_cons_self).trans linked.1, ?_⟩
      exact induction (fun other member => same other (List.mem_cons_of_mem _ member)) linked.2

theorem Linked.splice {link : Nat → Nat} {front rest back : List Nat} {last : Nat}
    (linked : Linked link (front ++ rest)) (linked' : Linked link back) (nodup : front.Nodup)
    (apart : ∀ block ∈ back, block ∉ front) (isLast : front.getLast? = some last) :
    Linked (update link last (back.headD 0)) (front ++ back) := by
  induction front with
  | nil => cases isLast
  | cons block front induction =>
      cases front with
      | nil =>
          cases isLast
          refine ⟨Function.update_self .., linked'.congr fun other member => ?_⟩
          exact Function.update_of_ne (fun same => apart other member (by simp [same])) ..
      | cons next front =>
          rw [List.getLast?_cons_cons] at isLast
          have inFront : last ∈ next :: front := List.mem_of_getLast? isLast
          have different : block ≠ last := fun same =>
            (List.nodup_cons.mp nodup).1 (same ▸ inFront)
          refine ⟨(Function.update_of_ne different ..).trans linked.1, ?_⟩
          exact induction linked.2 (List.nodup_cons.mp nodup).2
            (fun other member inside => apart other member (List.mem_cons_of_mem _ inside)) isLast

/-- The links of the blocks are determined by their order. -/
theorem Linked.eq {link link' : Nat → Nat} {blocks : List Nat} (linked : Linked link blocks)
    (linked' : Linked link' blocks) {block : Nat} (member : block ∈ blocks) :
    link' block = link block := by
  induction blocks with
  | nil => cases member
  | cons head rest induction =>
      rcases List.mem_cons.mp member with rfl | member
      · exact linked'.1.trans linked.1.symm
      · exact induction linked.2 linked'.2 member

/-- The links after the last of the blocks, if there is one, has been linked to another block. -/
def relinkLast (link : Nat → Nat) (blocks : List Nat) (next : Nat) : Nat → Nat :=
  match blocks.getLast? with
  | some last => update link last next
  | none => link

theorem relinkLast_of_notMem {link : Nat → Nat} {blocks : List Nat} {next block : Nat}
    (notMember : block ∉ blocks) : relinkLast link blocks next block = link block := by
  rw [relinkLast]
  cases isLast : blocks.getLast? with
  | some last =>
      have member : last ∈ blocks := List.mem_of_getLast? isLast
      exact Function.update_of_ne (ne_of_mem_of_not_mem member notMember).symm ..
  | none => rfl

/-- The last block of a front part links to the head of the others. -/
theorem Linked.next_of_getLast? {link : Nat → Nat} {front back : List Nat} {last : Nat}
    (linked : Linked link (front ++ back)) (isLast : front.getLast? = some last) :
    link last = back.headD 0 := by
  induction front with
  | nil => cases isLast
  | cons block front induction =>
      cases front with
      | nil =>
          cases isLast
          exact linked.1
      | cons next front => exact induction linked.2 isLast

/-- The last block already links to none. -/
theorem Linked.relinkLast_eq {link : Nat → Nat} {blocks : List Nat} (linked : Linked link blocks) :
    relinkLast link blocks 0 = link := by
  unfold relinkLast
  cases isLast : blocks.getLast? with
  | none => rfl
  | some last =>
      rw [← List.append_nil blocks] at linked
      have ends : link last = 0 := linked.next_of_getLast? isLast
      simp only [← ends, Function.update_eq_self]

/-- Linking the last block of a front part to a list of blocks joins the two. -/
theorem Linked.join {link : Nat → Nat} {front rest back : List Nat}
    (linked : Linked link (front ++ rest)) (linked' : Linked link back) (nodup : front.Nodup)
    (apart : ∀ block ∈ back, block ∉ front) :
    Linked (relinkLast link front (back.headD 0)) (front ++ back) := by
  rw [relinkLast]
  cases isLast : front.getLast? with
  | some last => exact linked.splice linked' nodup apart isLast
  | none =>
      rw [List.getLast?_eq_none_iff.mp isLast]
      exact linked'

/-! Walking -/

variable {volume : Volume} {disk before : Disk}

namespace Geometry

variable (geometry : Geometry)

theorem lt_word64_of_isData {block : Nat} (isData : geometry.IsData block) :
    block < Limit.word64 := by
  have minimum := geometry.minimum
  have addressable : geometry.imageLength < Limit.word64 := geometry.addressable
  have total : geometry.totalBlocks ≤ geometry.imageLength := Nat.le_mul_of_pos_right _ (by omega)
  exact Nat.lt_of_lt_of_le isData.2 (Nat.le_trans total (Nat.le_of_lt addressable))

theorem ne_zero_of_isData {block : Nat} (isData : geometry.IsData block) : block ≠ 0 := by
  have start := geometry.two_le_dataStart
  have behind := isData.1
  omega

theorem length_le_blocks {blocks : List Nat} (isData : ∀ block ∈ blocks, geometry.IsData block)
    (nodup : blocks.Nodup) : blocks.length ≤ geometry.blocks := by
  have subset : blocks ⊆ List.range' geometry.dataStart geometry.blocks := by
    intro block member
    exact List.mem_range'_1.mpr (isData block member)
  have fewer := (nodup.subperm subset).length_le
  rwa [List.length_range'] at fewer

theorem headD_lt_word64 {blocks : List Nat} (isData : ∀ block ∈ blocks, geometry.IsData block) :
    blocks.headD 0 < Limit.word64 := by
  cases blocks with
  | nil => exact Nat.succ_pos _
  | cons block rest => exact geometry.lt_word64_of_isData (isData block List.mem_cons_self)

end Geometry

namespace Volume

theorem walkChain_answers (first : Nat) {blocks : List Nat} {budget : Nat}
    (isData : ∀ block ∈ blocks, volume.geometry.IsData block) (linked : Linked disk.link blocks)
    (short : blocks.length ≤ budget) :
    Answers volume (volume.walkChain first budget (blocks.headD 0)) disk (.ok blocks) := by
  induction blocks generalizing budget with
  | nil =>
      rw [walkChain.eq_def]
      exact Answers.ite_pos rfl (.pure [])
  | cons block rest induction =>
      have here := isData block List.mem_cons_self
      cases budget with
      | zero => exact absurd short (Nat.not_succ_le_zero _)
      | succ budget =>
          rw [walkChain.eq_def]
          refine Answers.ite_neg (volume.geometry.ne_zero_of_isData here) ?_
          refine (Answers.except (volume.checkDataBlock_of_isData here)).bind ?_
          refine (nextBlock_answers here).bind ?_
          rw [linked.1]
          refine (induction (fun other member => isData other (List.mem_cons_of_mem _ member))
            linked.2 (Nat.le_of_succ_le_succ short)).bind ?_
          exact .pure _

theorem chain_answers {blocks : List Nat}
    (isData : ∀ block ∈ blocks, volume.geometry.IsData block) (nodup : blocks.Nodup)
    (linked : Linked disk.link blocks) :
    Answers volume (volume.chain (blocks.headD 0)) disk (.ok blocks) :=
  walkChain_answers _ isData linked (volume.geometry.length_le_blocks isData nodup)

end Volume

/-! Reading and writing the stream -/

def Disk.stream (disk : Disk) (blocks : List Nat) : Bytes :=
  blocks.flatMap disk.payload

theorem Disk.length_stream {disk : Disk} {blocks : List Nat} {size : Nat}
    (lengths : ∀ block ∈ blocks, (disk.payload block).length = size) :
    (disk.stream blocks).length = blocks.length * size := by
  induction blocks with
  | nil => simp [stream]
  | cons block rest induction =>
      have others := induction fun other member => lengths other (List.mem_cons_of_mem _ member)
      rw [stream] at others
      rw [stream, List.flatMap_cons, List.length_append, others, lengths block List.mem_cons_self,
        List.length_cons, Nat.succ_mul, Nat.add_comm]

theorem Disk.stream_congr {first second : Disk} {blocks : List Nat}
    (same : ∀ block ∈ blocks, second.payload block = first.payload block) :
    second.stream blocks = first.stream blocks :=
  List.flatMap_congr same

/-- Payloads of one length are determined by the stream. -/
theorem Disk.payload_of_stream {first second : Disk} {blocks : List Nat} {size : Nat}
    (lengths : ∀ block ∈ blocks, (first.payload block).length = size)
    (lengths' : ∀ block ∈ blocks, (second.payload block).length = size)
    (same : second.stream blocks = first.stream blocks) :
    ∀ block ∈ blocks, second.payload block = first.payload block := by
  induction blocks with
  | nil =>
      intro block member
      cases member
  | cons head rest induction =>
      have length := lengths head List.mem_cons_self
      have length' := lengths' head List.mem_cons_self
      rw [stream, stream, List.flatMap_cons, List.flatMap_cons] at same
      obtain ⟨here, behind⟩ := List.append_inj same (length'.trans length.symm)
      have others := induction (fun block member => lengths block (List.mem_cons_of_mem _ member))
        (fun block member => lengths' block (List.mem_cons_of_mem _ member)) behind
      intro block member
      rcases List.mem_cons.mp member with rfl | member
      · exact here
      · exact others block member

theorem Disk.stream_of_cleared {disk : Disk} {blocks : List Nat} {size : Nat}
    (cleared : ∀ block ∈ blocks, disk.payload block = .zeros size) :
    disk.stream blocks = .zeros (blocks.length * size) := by
  induction blocks with
  | nil => simp [stream, Bytes.zeros]
  | cons block rest induction =>
      have others := induction fun other member => cleared other (List.mem_cons_of_mem _ member)
      rw [stream] at others
      rw [stream, List.flatMap_cons, others, cleared block List.mem_cons_self, Bytes.zeros_append,
        List.length_cons, Nat.succ_mul, Nat.add_comm]

/-- The stream of the first blocks is the start of the stream. -/
theorem Disk.stream_take {disk : Disk} {blocks : List Nat} {size : Nat} (kept : Nat)
    (lengths : ∀ block ∈ blocks, (disk.payload block).length = size) :
    disk.stream (blocks.take kept) =
      (disk.stream blocks).take ((blocks.take kept).length * size) := by
  have first : (disk.stream (blocks.take kept)).length = (blocks.take kept).length * size :=
    length_stream fun block member => lengths block (List.mem_of_mem_take member)
  have whole : disk.stream blocks =
      disk.stream (blocks.take kept) ++ disk.stream (blocks.drop kept) := by
    rw [stream, stream, stream, ← List.flatMap_append, List.take_append_drop]
  rw [whole, List.take_left' first]

/-- Blocks that a stream may lie in. -/
structure Streams (geometry : Geometry) (disk : Disk) (blocks : List Nat) : Prop where
  isData : ∀ block ∈ blocks, geometry.IsData block
  notAnchor : geometry.anchorBlock ∉ blocks
  nodup : blocks.Nodup
  lengths : ∀ block ∈ blocks, (disk.payload block).length = geometry.payloadSize

theorem Streams.tail {geometry : Geometry} {block : Nat} {rest : List Nat}
    (streams : Streams geometry disk (block :: rest)) : Streams geometry disk rest where
  isData other member := streams.isData other (List.mem_cons_of_mem _ member)
  notAnchor member := streams.notAnchor (List.mem_cons_of_mem _ member)
  nodup := (List.nodup_cons.mp streams.nodup).2
  lengths other member := streams.lengths other (List.mem_cons_of_mem _ member)

theorem Streams.congr {geometry : Geometry} {first second : Disk} {blocks : List Nat}
    (same : ∀ block ∈ blocks, second.payload block = first.payload block)
    (streams : Streams geometry first blocks) : Streams geometry second blocks where
  isData := streams.isData
  notAnchor := streams.notAnchor
  nodup := streams.nodup
  lengths block member := by rw [same block member, streams.lengths block member]

theorem Streams.head_ne_anchor {geometry : Geometry} {block : Nat} {rest : List Nat}
    (streams : Streams geometry disk (block :: rest)) : block ≠ geometry.anchorBlock :=
  fun same => streams.notAnchor (by simp [same])

/-! Payloads from a stream -/

/-- The payloads after bytes have been dealt out to blocks, a piece of the size to each. -/
def deal (size : Nat) (payload : Nat → Bytes) : List Nat → Bytes → Nat → Bytes
  | [], _ => payload
  | block :: rest, bytes => update (deal size payload rest (bytes.drop size)) block (bytes.take size)

section Deal

variable {size : Nat} {payload payload' : Nat → Bytes} {blocks : List Nat} {bytes : Bytes} {block : Nat}

theorem deal_of_notMem (notMember : block ∉ blocks) :
    deal size payload blocks bytes block = payload block := by
  induction blocks generalizing bytes with
  | nil => rfl
  | cons head rest induction =>
      rw [List.mem_cons, not_or] at notMember
      exact (Function.update_of_ne notMember.1 ..).trans (induction notMember.2)

/-- The old payloads of the blocks do not matter. -/
theorem deal_congr (same : ∀ block ∉ blocks, payload' block = payload block) (bytes : Bytes) :
    deal size payload' blocks bytes = deal size payload blocks bytes := by
  have dealt {block : Nat} (member : block ∈ blocks) :
      deal size payload' blocks bytes block = deal size payload blocks bytes block := by
    clear same
    induction blocks generalizing bytes with
    | nil => cases member
    | cons head rest induction =>
        unfold deal
        by_cases isHead : block = head
        · simp [isHead]
        · simp only [Function.update_of_ne isHead]
          exact induction _ ((List.mem_cons.mp member).resolve_left isHead)
  funext block
  by_cases member : block ∈ blocks
  · exact dealt member
  · simp only [deal_of_notMem member, same block member]

/-- Dealing out the payloads of the blocks gives them back. -/
theorem deal_flatMap (lengths : ∀ block ∈ blocks, (payload' block).length = size)
    (apart : ∀ block ∉ blocks, payload' block = payload block) :
    deal size payload blocks (blocks.flatMap payload') = payload' := by
  have dealt {block : Nat} (member : block ∈ blocks) :
      deal size payload blocks (blocks.flatMap payload') block = payload' block := by
    clear apart
    induction blocks with
    | nil => cases member
    | cons head rest induction =>
        have length := lengths head List.mem_cons_self
        unfold deal
        simp only [List.flatMap_cons, List.take_left' length, List.drop_left' length]
        by_cases isHead : block = head
        · simp [isHead]
        · simp only [Function.update_of_ne isHead]
          exact induction (fun other inRest => lengths other (List.mem_cons_of_mem _ inRest))
            ((List.mem_cons.mp member).resolve_left isHead)
  funext block
  by_cases member : block ∈ blocks
  · exact dealt member
  · rw [deal_of_notMem member, apart block member]

/-- What has been dealt out to the blocks is read from them. -/
theorem flatMap_deal (nodup : blocks.Nodup) (length : bytes.length = blocks.length * size) :
    blocks.flatMap (deal size payload blocks bytes) = bytes := by
  induction blocks generalizing bytes with
  | nil =>
      rw [List.length_nil, Nat.zero_mul] at length
      rw [List.eq_nil_of_length_eq_zero length]
      rfl
  | cons head rest induction =>
      obtain ⟨notInRest, nodup⟩ := List.nodup_cons.mp nodup
      rw [List.length_cons, Nat.succ_mul] at length
      have others : rest.flatMap (deal size payload (head :: rest) bytes) =
          rest.flatMap (deal size payload rest (bytes.drop size)) :=
        List.flatMap_congr fun other member =>
          Function.update_of_ne (ne_of_mem_of_not_mem member notInRest) ..
      have here : deal size payload (head :: rest) bytes head = bytes.take size :=
        Function.update_self ..
      rw [List.flatMap_cons, here, others, induction nodup (by rw [List.length_drop]; omega),
        List.take_append_drop]

theorem length_deal (length : bytes.length = blocks.length * size) (member : block ∈ blocks) :
    (deal size payload blocks bytes block).length = size := by
  induction blocks generalizing bytes with
  | nil => cases member
  | cons head rest induction =>
      rw [List.length_cons, Nat.succ_mul] at length
      unfold deal
      by_cases isHead : block = head
      · rw [isHead, Function.update_self, List.length_take]
        omega
      · rw [Function.update_of_ne isHead]
        refine induction ?_ ((List.mem_cons.mp member).resolve_left isHead)
        rw [List.length_drop]
        omega

end Deal

/-- Bytes are laid over the stream of the blocks. -/
def Disk.overwrite (geometry : Geometry) (disk : Disk) (blocks : List Nat) (offset : Nat)
    (bytes : Bytes) : Disk :=
  { disk with
    payload := deal geometry.payloadSize disk.payload blocks
      ((disk.stream blocks).overlay offset bytes) }

namespace Disk

variable {geometry : Geometry} {blocks : List Nat} {offset : Nat} {bytes : Bytes}

theorem length_overlay_stream
    (lengths : ∀ block ∈ blocks, (disk.payload block).length = geometry.payloadSize)
    (fits : bytes ≠ [] → offset + bytes.length ≤ blocks.length * geometry.payloadSize) :
    ((disk.stream blocks).overlay offset bytes).length = blocks.length * geometry.payloadSize := by
  have length := length_stream lengths
  by_cases none : bytes = []
  · rw [none, Bytes.overlay_nil, length]
  · rw [Bytes.length_overlay (by rw [length]; exact fits none), length]

theorem stream_overwrite (nodup : blocks.Nodup)
    (lengths : ∀ block ∈ blocks, (disk.payload block).length = geometry.payloadSize)
    (fits : bytes ≠ [] → offset + bytes.length ≤ blocks.length * geometry.payloadSize) :
    (disk.overwrite geometry blocks offset bytes).stream blocks =
      (disk.stream blocks).overlay offset bytes :=
  flatMap_deal nodup (length_overlay_stream lengths fits)

end Disk

namespace Volume

theorem readPieces_answers {blocks : List Nat} {offset length : Nat}
    (streams : Streams volume.geometry disk blocks)
    (fits : offset + length ≤ blocks.length * volume.geometry.payloadSize) :
    Answers volume
      (volume.readPieces (Piece.cover volume.geometry.payloadSize blocks offset length)) disk
      (.ok (((disk.stream blocks).drop offset).take length)) := by
  induction blocks generalizing offset length with
  | nil =>
      have none : length = 0 := by simp at fits; omega
      subst none
      rw [List.take_zero]
      exact .pure []
  | cons block rest induction =>
      have here := streams.isData block List.mem_cons_self
      have size := streams.lengths block List.mem_cons_self
      rw [List.length_cons, Nat.succ_mul] at fits
      rw [Disk.stream, List.flatMap_cons, ← Disk.stream, Piece.cover]
      by_cases none : length = 0
      · rw [if_pos none, none, List.take_zero]
        exact .pure []
      rw [if_neg none]
      rcases Nat.lt_or_ge offset volume.geometry.payloadSize with inside | behind
      · rw [if_neg (Nat.not_le.mpr inside)]
        let first := min (volume.geometry.payloadSize - offset) length
        have fitsHere : offset + first ≤ volume.geometry.payloadSize := by omega
        have shorter : length - first ≤ rest.length * volume.geometry.payloadSize := by omega
        refine (Answers.except (volume.blockOffset_of_isData here)).bind ?_
        refine (readPayload_answers here streams.head_ne_anchor fitsHere).bind ?_
        refine (induction streams.tail (by omega)).bind ?_
        rw [List.drop_zero, List.drop_append_of_le_length (by omega), List.take_append,
          List.length_drop, size]
        have early : ((disk.payload block).drop offset).take first =
            ((disk.payload block).drop offset).take length := by
          rw [List.take_eq_take_iff, List.length_drop, size]
          omega
        have late : length - first = length - (volume.geometry.payloadSize - offset) := by omega
        rw [← early, ← late]
        exact .pure _
      · rw [if_pos behind, Bytes.drop_append_of_le (by omega), size]
        exact induction streams.tail (by omega)

theorem writePieces_leads {blocks : List Nat} {offset : Nat} {bytes : Bytes}
    (streams : Streams volume.geometry before blocks)
    (fits : offset + bytes.length ≤ blocks.length * volume.geometry.payloadSize) :
    ∃ payload, Leads volume
        (volume.writePieces
          (Piece.cover volume.geometry.payloadSize blocks offset bytes.length) bytes)
        before (.ok ()) { before with payload } ∧
      (∀ block ∉ blocks, payload block = before.payload block) ∧
      (∀ block ∈ blocks, (payload block).length = volume.geometry.payloadSize) ∧
      blocks.flatMap payload = (before.stream blocks).overlay offset bytes := by
  induction blocks generalizing before offset bytes with
  | nil =>
      have none : bytes = [] := by
        rw [List.length_nil, Nat.zero_mul] at fits
        exact List.eq_nil_of_length_eq_zero (by omega)
      subst none
      refine ⟨before.payload, .pure (), fun _ _ => rfl, streams.lengths, ?_⟩
      exact (Bytes.overlay_nil _ _).symm
  | cons block rest induction =>
      have here := streams.isData block List.mem_cons_self
      have size := streams.lengths block List.mem_cons_self
      have notInRest := (List.nodup_cons.mp streams.nodup).1
      rw [List.length_cons, Nat.succ_mul] at fits
      rw [Disk.stream, List.flatMap_cons, ← Disk.stream, Piece.cover]
      by_cases none : bytes.length = 0
      · rw [if_pos none, List.eq_nil_of_length_eq_zero none, Bytes.overlay_nil]
        exact ⟨before.payload, .pure (), fun _ _ => rfl, streams.lengths, rfl⟩
      rw [if_neg none]
      rcases Nat.lt_or_ge offset volume.geometry.payloadSize with inside | behind
      · rw [if_neg (Nat.not_le.mpr inside)]
        let first := min (volume.geometry.payloadSize - offset) bytes.length
        have fitsHere : offset + (bytes.take first).length ≤ volume.geometry.payloadSize := by
          rw [List.length_take]
          omega
        let here' := (before.payload block).overlay offset (bytes.take first)
        let middle : Disk := { before with payload := update before.payload block here' }
        have written : Leads volume
            (volume.device.write (block * volume.geometry.blockSize + offset) (bytes.take first))
            before (.ok ()) middle :=
          writePayload_leads here streams.head_ne_anchor fitsHere
        have others : ∀ other ∈ rest, middle.payload other = before.payload other := by
          intro other member
          exact Function.update_of_ne (ne_of_mem_of_not_mem member notInRest) ..
        have fitsRest : 0 + (bytes.drop first).length ≤
            rest.length * volume.geometry.payloadSize := by
          rw [List.length_drop]
          omega
        obtain ⟨payload, leads, apart, lengths, overlaid⟩ :=
          induction (streams.tail.congr others) fitsRest
        have payloadHere : payload block = here' :=
          (apart block notInRest).trans (Function.update_self ..)
        refine ⟨payload, ?_, ?_, ?_, ?_⟩
        · refine (Leads.except (volume.blockOffset_of_isData here)).bind ?_
          refine written.bind ?_
          rw [List.length_drop] at leads
          exact leads
        · intro other notMember
          refine (apart other fun member => notMember (List.mem_cons_of_mem _ member)).trans ?_
          exact Function.update_of_ne (fun same => notMember (by simp [same])) ..
        · intro other member
          rcases List.mem_cons.mp member with rfl | member
          · rw [payloadHere, Bytes.length_overlay (by omega), size]
          · exact lengths other member
        · have cut : bytes.take (volume.geometry.payloadSize - offset) = bytes.take first := by
            rw [List.take_eq_take_iff]
            omega
          have cut' : bytes.drop (volume.geometry.payloadSize - offset) = bytes.drop first := by
            rw [List.drop_eq_drop_iff]
            omega
          rw [List.flatMap_cons, payloadHere, overlaid, Disk.stream_congr others,
            Bytes.overlay_append_of_lt _ (by omega), size, cut, cut']
      · rw [if_pos behind, Bytes.overlay_append_of_le _ (by omega), size]
        have fitsRest : offset - volume.geometry.payloadSize + bytes.length ≤
            rest.length * volume.geometry.payloadSize := by omega
        obtain ⟨payload, leads, apart, lengths, overlaid⟩ :=
          induction streams.tail fitsRest
        refine ⟨payload, leads, ?_, ?_, ?_⟩
        · intro other notMember
          exact apart other fun member => notMember (List.mem_cons_of_mem _ member)
        · intro other member
          rcases List.mem_cons.mp member with rfl | member
          · rw [apart _ notInRest, size]
          · exact lengths other member
        · rw [List.flatMap_cons, apart _ notInRest, overlaid]

theorem pieces_of_fits {blocks : List Nat} {offset length : Nat}
    (fits : offset + length ≤ blocks.length * volume.geometry.payloadSize) :
    volume.pieces blocks offset length =
      .ok (Piece.cover volume.geometry.payloadSize blocks offset length) := by
  have inside : ¬ volume.chainCapacity blocks < min (offset + length) (Limit.word64 - 1) := by
    rw [chainCapacity]
    omega
  rw [pieces]
  exact if_neg inside

theorem readChain_answers {blocks : List Nat} {offset length : Nat}
    (streams : Streams volume.geometry disk blocks)
    (fits : offset + length ≤ blocks.length * volume.geometry.payloadSize) :
    Answers volume (volume.readChain blocks offset length) disk
      (.ok (((disk.stream blocks).drop offset).take length)) :=
  (Answers.except (pieces_of_fits fits)).bind (readPieces_answers streams fits)

theorem writeChain_leads {blocks : List Nat} {offset : Nat} {bytes : Bytes}
    (streams : Streams volume.geometry before blocks)
    (fits : offset + bytes.length ≤ blocks.length * volume.geometry.payloadSize) :
    Leads volume (volume.writeChain blocks offset bytes) before (.ok ())
      (before.overwrite volume.geometry blocks offset bytes) := by
  obtain ⟨payload, leads, apart, lengths, overlaid⟩ := writePieces_leads streams fits
  refine Leads.ending ((Leads.except (pieces_of_fits fits)).bind leads) ?_
  rw [Disk.overwrite, ← overlaid, deal_flatMap lengths apart]

end Volume

/-! Fresh blocks and freed ones -/

/-- The links after each of the blocks has been linked to the one behind it. -/
def relink (link : Nat → Nat) : List Nat → Nat → Nat
  | [] => link
  | block :: rest => relink (update link block (rest.headD 0)) rest

theorem relink_of_notMem {link : Nat → Nat} {blocks : List Nat} {block : Nat}
    (notMember : block ∉ blocks) : relink link blocks block = link block := by
  induction blocks generalizing link with
  | nil => rfl
  | cons head rest induction =>
      rw [List.mem_cons, not_or] at notMember
      exact (induction notMember.2).trans (Function.update_of_ne notMember.1 ..)

theorem linked_relink {link : Nat → Nat} {blocks : List Nat} (nodup : blocks.Nodup) :
    Linked (relink link blocks) blocks := by
  induction blocks generalizing link with
  | nil => trivial
  | cons block rest induction =>
      obtain ⟨notInRest, nodup⟩ := List.nodup_cons.mp nodup
      exact ⟨(relink_of_notMem notInRest).trans (Function.update_self ..), induction nodup⟩

namespace Volume

theorem linkFresh_leads {blocks : List Nat}
    (isData : ∀ block ∈ blocks, volume.geometry.IsData block)
    (notAnchor : volume.geometry.anchorBlock ∉ blocks) :
    Leads volume (volume.linkFresh blocks) before (.ok ())
      { before with
        payload := fun block =>
          if block ∈ blocks then .zeros volume.geometry.payloadSize else before.payload block
        link := relink before.link blocks } := by
  induction blocks generalizing before with
  | nil => exact .pure ()
  | cons block rest induction =>
      have others : ∀ other ∈ rest, volume.geometry.IsData other :=
        fun other member => isData other (List.mem_cons_of_mem _ member)
      have cleared := @clearBlock_leads volume before block _ (isData block List.mem_cons_self)
        (fun same => notAnchor (by simp [same])) (volume.geometry.headD_lt_word64 others)
      have linked := @induction
        { before with
          payload := update before.payload block (.zeros volume.geometry.payloadSize)
          link := update before.link block (rest.headD 0) }
        others fun member => notAnchor (List.mem_cons_of_mem _ member)
      refine Leads.ending (cleared.bind linked) ?_
      refine Disk.ext rfl rfl rfl (funext fun other => ?_) rfl rfl
      by_cases same : other = block
      · simp [same]
      · simp [same, Function.update_of_ne]

theorem unlinkAll_leads {blocks : List Nat}
    (isData : ∀ block ∈ blocks, volume.geometry.IsData block) :
    Leads volume (volume.unlinkAll blocks) before (.ok ())
      { before with link := fun block => if block ∈ blocks then 0 else before.link block } := by
  induction blocks generalizing before with
  | nil => exact .pure ()
  | cons block rest induction =>
      have unlinked := @linkBlock_leads volume before block 0 (isData block List.mem_cons_self)
        (Nat.succ_pos _)
      have others := @induction { before with link := update before.link block 0 }
        fun other member => isData other (List.mem_cons_of_mem _ member)
      refine Leads.ending (unlinked.bind others) ?_
      refine Disk.ext rfl rfl rfl rfl (funext fun other => ?_) rfl
      by_cases same : other = block
      · simp [same]
      · simp [same, Function.update_of_ne]

end Volume

end ImageFs
