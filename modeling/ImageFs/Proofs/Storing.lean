import ImageFs.Proofs.Turnover

/-!
The disk that storing bytes in the chain of an inode leaves. Main statement: storing bytes in two parts,
with blocks handed out for each of them, leaves the disk that storing them at once leaves.
-/

namespace ImageFs

open Function (update)

namespace Disk

variable (geometry : Geometry) (disk : Disk)

/-- Fresh blocks are linked behind a chain, and bytes are laid over the stream of all its blocks. -/
def refill (chain bits : List Nat) (offset : Nat) (bytes : Bytes) : Disk :=
  (disk.extend geometry chain bits).overwrite geometry (chain ++ bits.map geometry.blockOfBit) offset
    bytes

/-- The chain of an inode is refilled, and its record is replaced. -/
def store (inode : Nat) (chain bits : List Nat) (offset : Nat) (bytes record : Bytes) : Disk :=
  { disk.refill geometry chain bits offset bytes with record := update disk.record inode record }

variable {geometry disk} {inode : Nat} {chain first second : List Nat} {offset : Nat}
  {left right record record' : Bytes}

/-- With nothing to store nothing changes. -/
theorem store_nil (linked : Linked disk.link chain)
    (lengths : ∀ block ∈ chain, (disk.payload block).length = geometry.payloadSize)
    (offset : Nat) : disk.store geometry inode chain [] offset [] (disk.record inode) = disk := by
  have payload : deal geometry.payloadSize disk.payload chain (disk.stream chain) = disk.payload :=
    deal_flatMap lengths fun _ _ => rfl
  simp only [store, refill, overwrite, extend_nil linked, List.map_nil, List.append_nil,
    Bytes.overlay_nil, payload, Function.update_eq_self]

/-! Two parts -/

/-- Bits that are handed out one after another are those that are handed out together. -/
theorem nextBits_append {count : Nat} (length : disk.bitmap.length = geometry.bitmapLength)
    (clear : count ≤ FirstFit.clearUsable disk.bitmap geometry.blocks) (more : Nat) :
    disk.nextBits geometry count ++
        (disk.handOut geometry (disk.nextBits geometry count)).nextBits geometry more =
      disk.nextBits geometry (count + more) := by
  have covered : geometry.blocks ≤ 8 * disk.bitmap.length := by
    rw [length]
    exact geometry.blocks_le_bitmap
  have left := @FirstFit.offers_taken _ _ (disk.counter .nextFreeBlock) _ covered clear
  simp only [nextBits, handOut, Function.update_self]
  rw [left, List.take_add]

theorem counter_handOut_append (first second : List Nat) :
    ((disk.handOut geometry first).handOut geometry second).counter =
      (disk.handOut geometry (first ++ second)).counter := by
  funext which
  cases which <;> simp [handOut, FirstFit.cursorBehind_append, Nat.sub_sub]

theorem stream_refill {bits : List Nat} {bytes : Bytes}
    (nodup : (chain ++ bits.map geometry.blockOfBit).Nodup)
    (lengths : ∀ block ∈ chain, (disk.payload block).length = geometry.payloadSize)
    (fits : bytes ≠ [] → offset + bytes.length ≤
      (chain ++ bits.map geometry.blockOfBit).length * geometry.payloadSize) :
    (disk.refill geometry chain bits offset bytes).stream (chain ++ bits.map geometry.blockOfBit) =
      (disk.stream chain ++ .zeros (bits.length * geometry.payloadSize)).overlay offset bytes := by
  rw [refill, stream_overwrite nodup (length_extend lengths) fits, stream_extend nodup]

/-- Storing in two parts is storing at once. -/
theorem store_append (linked : Linked disk.link chain)
    (nodup : (chain ++ (first ++ second).map geometry.blockOfBit).Nodup)
    (lengths : ∀ block ∈ chain, (disk.payload block).length = geometry.payloadSize)
    (fits : left ≠ [] → offset + left.length ≤
      (chain ++ first.map geometry.blockOfBit).length * geometry.payloadSize) :
    (disk.store geometry inode chain first offset left record).store geometry inode
        (chain ++ first.map geometry.blockOfBit) second (offset + left.length) right record' =
      disk.store geometry inode chain (first ++ second) offset (left ++ right) record' := by
  let middle := disk.store geometry inode chain first offset left record
  let front := chain ++ first.map geometry.blockOfBit
  have whole : front ++ second.map geometry.blockOfBit =
      chain ++ (first ++ second).map geometry.blockOfBit := by
    rw [List.map_append, List.append_assoc]
  have nodup' : (front ++ second.map geometry.blockOfBit).Nodup := whole ▸ nodup
  have nodupFront : front.Nodup := (List.nodup_append.mp nodup').1
  have inFront {block : Nat} (notMember : block ∉ front ++ second.map geometry.blockOfBit) :
      block ∉ front := fun member => notMember (List.mem_append_left _ member)
  have capacity : (disk.stream chain ++
      Bytes.zeros (first.length * geometry.payloadSize)).length =
        front.length * geometry.payloadSize := by
    rw [List.length_append, length_stream lengths, Bytes.length_zeros, List.length_append,
      List.length_map, Nat.add_mul]
  have stream : (middle.extend geometry front second).stream
      (front ++ second.map geometry.blockOfBit) =
        (disk.stream chain ++ .zeros (first.length * geometry.payloadSize)).overlay offset left ++
          .zeros (second.length * geometry.payloadSize) := by
    rw [stream_extend nodup', ← stream_refill nodupFront lengths fits]
    rfl
  have whole' : disk.stream chain ++ .zeros (first.length * geometry.payloadSize) ++
      .zeros (second.length * geometry.payloadSize) =
        (disk.extend geometry chain (first ++ second)).stream
          (chain ++ (first ++ second).map geometry.blockOfBit) := by
    rw [stream_extend nodup, List.append_assoc, Bytes.zeros_append, ← Nat.add_mul,
      List.length_append]
  ext1
  · exact counter_handOut_append first second
  · exact (List.foldl_append ..).symm
  · exact Function.update_idem ..
  · change deal _ _ (front ++ second.map geometry.blockOfBit) (Bytes.overlay _ _ _) = _
    rw [stream, Bytes.overlay_append_overlay (by rwa [capacity]), whole', whole]
    refine deal_congr (fun block notMember => ?_) _
    rw [← whole] at notMember
    rw [payload_extend_of_notMem notMember, payload_extend_of_notMem (whole ▸ notMember)]
    exact (deal_of_notMem (inFront notMember)).trans (payload_extend_of_notMem (inFront notMember))
  · funext block
    by_cases member : block ∈ front ++ second.map geometry.blockOfBit
    · have atOnce := linked_extend linked nodup
      rw [← whole] at atOnce
      exact atOnce.eq (linked_extend (linked_extend linked nodupFront) nodup') member
    · exact (link_extend_of_notMem member).trans ((link_extend_of_notMem (inFront member)).trans
        (link_extend_of_notMem (whole ▸ member)).symm)
  · rfl

end Disk

end ImageFs
