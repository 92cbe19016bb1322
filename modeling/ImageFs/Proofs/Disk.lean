import Mathlib.Logic.Function.Basic
import ImageFs.Proofs.Area
import ImageFs.Proofs.ReadAfterWrite

/-!
An image as what its areas hold. The count of holders is kept apart, since every operation changes it
for a while: its bytes count as zeros of the anchor's payload. Main statements: a write into one area
changes that area alone, and files with the same areas and the same count of holders are equal.
-/

namespace ImageFs

open Function (update)

@[ext] structure Disk where
  counter : Counter → Nat
  bitmap : Bytes
  record : Nat → Bytes
  payload : Nat → Bytes
  link : Nat → Nat
  rest : Nat → UInt8

def Content.area (content : Content) (geometry : Geometry) (area : Area) : Bytes :=
  content.read (area.first geometry) (area.length geometry)

def Content.holders (content : Content) (geometry : Geometry) : Nat :=
  (content.area geometry .holders).toNat

namespace Disk

variable (geometry : Geometry)

def of (content : Content) : Disk where
  counter which := (content.area geometry (.counter which)).toNat
  bitmap := content.area geometry .bitmap
  record inode :=
    if inode < geometry.inodeCount then content.area geometry (.record inode) else []
  payload block :=
    if geometry.IsData block then
      Bytes.zeros (Area.reserved geometry block) ++ content.area geometry (.payload block)
    else []
  link block :=
    if geometry.IsData block then (content.area geometry (.link block)).toNat else 0
  rest position := if Area.Outside geometry position then content.byte position else 0

theorem length_payload {geometry : Geometry} (content : Content) {block : Nat}
    (isData : geometry.IsData block) :
    ((of geometry content).payload block).length = geometry.payloadSize := by
  have reserved := Area.reserved_le geometry block
  have minimum := geometry.minimum
  have sum := geometry.payloadSize_add
  simp only [of, if_pos isData, List.length_append, Bytes.length_zeros, Content.area,
    Content.length_read, Area.length]
  omega

/-! Writing into one area -/

/-- Two files agree but for what one area holds. -/
structure AgreeBut (area : Area) (first second : Content) : Prop where
  area : ∀ other : Area, other.Valid geometry → other ≠ area →
    second.area geometry other = first.area geometry other
  rest : ∀ position, Area.Outside geometry position → second.byte position = first.byte position

variable {geometry}

theorem agreeBut_write (area : Area) (valid : area.Valid geometry) (content : Content)
    {start : Nat} {bytes : Bytes} (behind : area.first geometry ≤ start)
    (within : start + bytes.length ≤ area.first geometry + area.length geometry) :
    AgreeBut geometry area content (content.write start bytes) where
  area other valid' different := by
    refine Content.read_write_of_apart content ?_
    rcases Area.apart valid' valid different with before | before <;> rw [Area.Before] at before
    · exact .inl (by omega)
    · exact .inr (by omega)
  rest position outside := by
    refine Content.byte_write_of_apart content ?_
    have notCovered := Area.not_covers_of_outside valid outside
    rw [Area.Covers] at notCovered
    omega

theorem area_write {area : Area} (content : Content) {start : Nat} {bytes : Bytes}
    (behind : area.first geometry ≤ start)
    (within : start + bytes.length ≤ area.first geometry + area.length geometry) :
    (content.write start bytes).area geometry area =
      (content.area geometry area).overlay (start - area.first geometry) bytes :=
  Content.read_write_of_within content behind within

theorem area_write_whole {area : Area} (content : Content) {bytes : Bytes}
    (length : bytes.length = area.length geometry) :
    (content.write (area.first geometry) bytes).area geometry area = bytes := by
  rw [Content.area, ← length]
  exact Content.read_write_same content

@[simp] theorem length_area (content : Content) (area : Area) :
    (content.area geometry area).length = area.length geometry :=
  Content.length_read ..

theorem holders_lt (content : Content) : content.holders geometry < Limit.word64 := by
  have bound := Bytes.toNat_lt (content.area geometry .holders)
  rwa [length_area] at bound

namespace AgreeBut

variable {area : Area} {first second : Content}

theorem fields (agree : AgreeBut geometry area first second) :
    (∀ which, area ≠ .counter which →
      (of geometry second).counter which = (of geometry first).counter which) ∧
    (area ≠ .bitmap → (of geometry second).bitmap = (of geometry first).bitmap) ∧
    (∀ inode, area ≠ .record inode →
      (of geometry second).record inode = (of geometry first).record inode) ∧
    (∀ block, area ≠ .payload block →
      (of geometry second).payload block = (of geometry first).payload block) ∧
    (∀ block, area ≠ .link block →
      (of geometry second).link block = (of geometry first).link block) ∧
    (of geometry second).rest = (of geometry first).rest := by
  refine ⟨?_, ?_, ?_, ?_, ?_, ?_⟩
  · intro which different
    simp only [of, agree.area (.counter which) trivial different.symm]
  · intro different
    simp only [of, agree.area .bitmap trivial different.symm]
  · intro inode different
    simp only [of]
    split
    · next valid => rw [agree.area (.record inode) valid different.symm]
    · rfl
  · intro block different
    simp only [of]
    split
    · next valid => rw [agree.area (.payload block) valid different.symm]
    · rfl
  · intro block different
    simp only [of]
    split
    · next valid => rw [agree.area (.link block) valid different.symm]
    · rfl
  · funext position
    simp only [of]
    split
    · next outside => rw [agree.rest position outside]
    · rfl

theorem holders (agree : AgreeBut geometry area first second) (different : area ≠ .holders) :
    second.holders geometry = first.holders geometry := by
  rw [Content.holders, Content.holders, agree.area .holders trivial different.symm]

end AgreeBut

section Writes

variable (content : Content)

theorem of_write_counter (which : Counter) {value : Nat} (bound : value < Limit.word64) :
    of geometry (content.write which.offset (Bytes.ofNat 8 value)) =
      { of geometry content with counter := update (of geometry content).counter which value } := by
  have within : which.offset + (Bytes.ofNat 8 value).length ≤
      Area.first geometry (.counter which) + Area.length geometry (.counter which) := by
    simp [Area.first, Area.length]
  obtain ⟨counter, bitmap, record, payload, link, rest⟩ :=
    (agreeBut_write (.counter which) trivial content (Nat.le_refl _) within).fields
  apply Disk.ext
  · funext other
    dsimp only
    by_cases same : other = which
    · subst same
      rw [Function.update_self]
      change ((content.write (Area.first geometry (.counter other)) (Bytes.ofNat 8 value)).area
        geometry (.counter other)).toNat = value
      rw [area_write_whole content (by simp [Area.length]), Bytes.toNat_ofNat_of_lt bound]
    · rw [Function.update_of_ne same]
      exact counter other (by simp [Ne.symm same])
  · exact bitmap (by simp)
  · exact funext fun inode => record inode (by simp)
  · exact funext fun block => payload block (by simp)
  · exact funext fun block => link block (by simp)
  · exact rest

theorem of_write_bitmap {start : Nat} {bytes : Bytes}
    (fits : start + bytes.length ≤ geometry.bitmapLength) :
    of geometry (content.write (geometry.bitmapOffset + start) bytes) =
      { of geometry content with bitmap := (of geometry content).bitmap.overlay start bytes } := by
  have behind : Area.first geometry .bitmap ≤ geometry.bitmapOffset + start :=
    Nat.le_add_right _ _
  have within : geometry.bitmapOffset + start + bytes.length ≤
      Area.first geometry .bitmap + Area.length geometry .bitmap := by
    simp only [Area.first, Area.length]
    omega
  obtain ⟨counter, -, record, payload, link, rest⟩ :=
    (agreeBut_write .bitmap trivial content behind within).fields
  apply Disk.ext
  · exact funext fun which => counter which (by simp)
  · change (content.write (geometry.bitmapOffset + start) bytes).area geometry .bitmap = _
    rw [area_write content behind within]
    simp only [Area.first, Nat.add_sub_cancel_left]
    rfl
  · exact funext fun inode => record inode (by simp)
  · exact funext fun block => payload block (by simp)
  · exact funext fun block => link block (by simp)
  · exact rest

theorem of_write_in_record {inode start : Nat} {bytes : Bytes}
    (valid : inode < geometry.inodeCount) (fits : start + bytes.length ≤ recordLength) :
    of geometry (content.write (Area.first geometry (.record inode) + start) bytes) =
      { of geometry content with
        record := update (of geometry content).record inode
          (((of geometry content).record inode).overlay start bytes) } := by
  have behind : Area.first geometry (.record inode) ≤ Area.first geometry (.record inode) + start :=
    Nat.le_add_right _ _
  have within : Area.first geometry (.record inode) + start + bytes.length ≤
      Area.first geometry (.record inode) + Area.length geometry (.record inode) := by
    simp only [Area.length]
    omega
  obtain ⟨counter, bitmap, records, payload, link, rest⟩ :=
    (agreeBut_write (.record inode) valid content behind within).fields
  apply Disk.ext
  · exact funext fun which => counter which (by simp)
  · exact bitmap (by simp)
  · funext other
    dsimp only
    by_cases same : other = inode
    · subst same
      rw [Function.update_self]
      simp only [of, if_pos valid]
      rw [area_write content behind within, Nat.add_sub_cancel_left]
    · rw [Function.update_of_ne same]
      exact records other (by simp [Ne.symm same])
  · exact funext fun block => payload block (by simp)
  · exact funext fun block => link block (by simp)
  · exact rest

theorem of_write_record {inode : Nat} {record : Bytes} (valid : inode < geometry.inodeCount)
    (length : record.length = recordLength) :
    of geometry (content.write (Area.first geometry (.record inode)) record) =
      { of geometry content with record := update (of geometry content).record inode record } := by
  have whole : ((of geometry content).record inode).overlay 0 record = record := by
    refine Bytes.overlay_zero ?_
    simp only [of, if_pos valid, length_area, length, Area.length]
  have written := @of_write_in_record geometry content inode 0 record valid (by omega)
  rwa [whole] at written

theorem of_write_link {block next : Nat} (isData : geometry.IsData block)
    (bound : next < Limit.word64) :
    of geometry (content.write (Area.first geometry (.link block)) (Bytes.ofNat 8 next)) =
      { of geometry content with link := update (of geometry content).link block next } := by
  have within : Area.first geometry (.link block) + (Bytes.ofNat 8 next).length ≤
      Area.first geometry (.link block) + Area.length geometry (.link block) := by
    simp [Area.length]
  obtain ⟨counter, bitmap, record, payload, links, rest⟩ :=
    (agreeBut_write (.link block) isData content (Nat.le_refl _) within).fields
  apply Disk.ext
  · exact funext fun which => counter which (by simp)
  · exact bitmap (by simp)
  · exact funext fun inode => record inode (by simp)
  · exact funext fun block => payload block (by simp)
  · funext other
    dsimp only
    by_cases same : other = block
    · subst same
      rw [Function.update_self]
      simp only [of, if_pos isData]
      rw [area_write_whole content (by simp [Area.length]), Bytes.toNat_ofNat_of_lt bound]
    · rw [Function.update_of_ne same]
      exact links other (by simp [Ne.symm same])
  · exact rest

theorem of_write_payload {block start : Nat} {bytes : Bytes} (isData : geometry.IsData block)
    (notAnchor : block ≠ geometry.anchorBlock)
    (fits : start + bytes.length ≤ geometry.payloadSize) :
    of geometry (content.write (block * geometry.blockSize + start) bytes) =
      { of geometry content with
        payload := update (of geometry content).payload block
          (((of geometry content).payload block).overlay start bytes) } := by
  have first : Area.first geometry (.payload block) = block * geometry.blockSize := by
    simp [Area.first, Area.reserved, notAnchor]
  have length : Area.length geometry (.payload block) = geometry.payloadSize := by
    simp [Area.length, Area.reserved, notAnchor]
  have behind : Area.first geometry (.payload block) ≤ block * geometry.blockSize + start := by
    omega
  have within : block * geometry.blockSize + start + bytes.length ≤
      Area.first geometry (.payload block) + Area.length geometry (.payload block) := by
    omega
  obtain ⟨counter, bitmap, record, payloads, link, rest⟩ :=
    (agreeBut_write (.payload block) isData content behind within).fields
  apply Disk.ext
  · exact funext fun which => counter which (by simp)
  · exact bitmap (by simp)
  · exact funext fun inode => record inode (by simp)
  · funext other
    dsimp only
    by_cases same : other = block
    · subst same
      rw [Function.update_self]
      simp only [of, if_pos isData, Area.reserved, if_neg notAnchor]
      rw [area_write content behind within, first, Nat.add_sub_cancel_left]
      rfl
    · rw [Function.update_of_ne same]
      exact payloads other (by simp [Ne.symm same])
  · exact funext fun block => link block (by simp)
  · exact rest

theorem of_write_holders {count : Nat} :
    of geometry (content.write (geometry.anchorBlock * geometry.blockSize) (Bytes.ofNat 8 count)) =
      of geometry content := by
  have within : geometry.anchorBlock * geometry.blockSize + (Bytes.ofNat 8 count).length ≤
      Area.first geometry .holders + Area.length geometry .holders := by
    simp [Area.first, Area.length]
  obtain ⟨counter, bitmap, record, payload, link, rest⟩ :=
    (agreeBut_write .holders trivial content (Nat.le_refl _) within).fields
  apply Disk.ext
  · exact funext fun which => counter which (by simp)
  · exact bitmap (by simp)
  · exact funext fun inode => record inode (by simp)
  · exact funext fun block => payload block (by simp)
  · exact funext fun block => link block (by simp)
  · exact rest

theorem holders_write {count : Nat} (bound : count < Limit.word64) :
    (content.write (geometry.anchorBlock * geometry.blockSize) (Bytes.ofNat 8 count)).holders
      geometry = count := by
  have whole : (content.write (Area.first geometry .holders) (Bytes.ofNat 8 count)).area geometry
      .holders = Bytes.ofNat 8 count :=
    area_write_whole content (by simp [Area.length])
  exact (congrArg Bytes.toNat whole).trans (Bytes.toNat_ofNat_of_lt bound)

end Writes

/-! The areas determine the file -/

theorem area_eq_of_toNat_eq {first second : Content} {area : Area}
    (same : (first.area geometry area).toNat = (second.area geometry area).toNat) :
    first.area geometry area = second.area geometry area := by
  rw [← Bytes.ofNat_toNat (first.area geometry area), same, length_area,
    ← length_area second area, Bytes.ofNat_toNat]

/-- The disks have the same in the area. The count of holders is no part of a disk. -/
def AgreeOn (first second : Disk) : Area → Prop
  | .counter which => first.counter which = second.counter which
  | .bitmap => first.bitmap = second.bitmap
  | .holders => True
  | .record inode => first.record inode = second.record inode
  | .payload block => first.payload block = second.payload block
  | .link block => first.link block = second.link block

theorem agreeOn_of_eq {first second : Disk} (same : first = second) (area : Area) :
    AgreeOn first second area := by
  subst same
  cases area with
  | holders => exact True.intro
  | _ => exact Eq.refl _

theorem area_eq {first second : Content} {area : Area} (valid : area.Valid geometry)
    (holders : first.holders geometry = second.holders geometry)
    (agree : AgreeOn (of geometry first) (of geometry second) area) :
    first.area geometry area = second.area geometry area := by
  cases area with
  | counter which => exact area_eq_of_toNat_eq agree
  | bitmap => exact agree
  | holders => exact area_eq_of_toNat_eq holders
  | record inode =>
      have record : (of geometry first).record inode = (of geometry second).record inode := agree
      simpa only [of, if_pos (show inode < geometry.inodeCount from valid)] using record
  | payload block =>
      have payload : (of geometry first).payload block = (of geometry second).payload block := agree
      simpa only [of, if_pos (show geometry.IsData block from valid),
        List.append_cancel_left_eq] using payload
  | link block =>
      have link : (of geometry first).link block = (of geometry second).link block := agree
      refine area_eq_of_toNat_eq ?_
      simpa only [of, if_pos (show geometry.IsData block from valid)] using link

/-- A byte lies in an area or outside of all of them. -/
theorem byte_eq {first second : Content} {position : Nat}
    (holders : first.holders geometry = second.holders geometry)
    (rest : (of geometry first).rest = (of geometry second).rest)
    (agree : ∀ area : Area, area.Valid geometry → area.Covers geometry position →
      AgreeOn (of geometry first) (of geometry second) area) :
    first.byte position = second.byte position := by
  by_cases outside : Area.Outside geometry position
  · have rest := congrFun rest position
    simpa only [of, if_pos outside] using rest
  · obtain ⟨area, valid, covers⟩ := Area.exists_covers outside
    exact Content.byte_of_read (area_eq valid holders (agree area valid covers)) covers.1 covers.2

theorem content_eq {first second : Content} (size : first.size = second.size)
    (holders : first.holders geometry = second.holders geometry)
    (disk : of geometry first = of geometry second) : first = second := by
  refine Content.eq_of_bytes size fun position => ?_
  exact byte_eq holders (congrArg Disk.rest disk) fun area _ _ => agreeOn_of_eq disk area

end Disk

/-- The files have the same length, and the same bytes where none of the areas lies. -/
structure Content.SameBut (geometry : Geometry) (areas : List Area) (first second : Content) :
    Prop where
  size : second.size = first.size
  bytes : ∀ position, (∀ area ∈ areas, ¬ area.Covers geometry position) →
    second.byte position = first.byte position

theorem Disk.sameBut {geometry : Geometry} {areas : List Area} {first second : Content}
    (size : second.size = first.size)
    (holders : second.holders geometry = first.holders geometry)
    (rest : (of geometry second).rest = (of geometry first).rest)
    (agree : ∀ area ∉ areas, AgreeOn (of geometry second) (of geometry first) area) :
    first.SameBut geometry areas second where
  size
  bytes position elsewhere := by
    refine byte_eq holders rest fun area _ covers => agree area fun member => ?_
    exact elsewhere area member covers

end ImageFs
