import Mathlib.Algebra.Ring.Nat
import ImageFs.Proofs.Metadata
import ImageFs.Proofs.Session

/-!
The bytes of a file that the stream of a list of blocks lies in. The pieces of a range of the stream
follow one another and stay within the payloads. Main statement: a write into the stream succeeds
exactly when the range fits, changes the bytes of the range and no others, and is what reading the stream
shows afterwards; this holds for all lists of distinct data blocks on files of arbitrary bytes.
-/

namespace ImageFs

variable {geometry : Geometry} {volume : Volume} {block offset index : Nat} {blocks rest : List Nat}

namespace Geometry

/-- The position in the file of a byte of the stream. -/
def position (geometry : Geometry) (blocks : List Nat) (index : Nat) : Nat :=
  blocks.getD (index / geometry.payloadSize) 0 * geometry.blockSize + index % geometry.payloadSize

theorem payloadSize_lt : geometry.payloadSize < geometry.blockSize := by
  have sum := geometry.payloadSize_add
  omega

theorem div_lt_of_lt_capacity (inside : index < blocks.length * geometry.payloadSize) :
    index / geometry.payloadSize < blocks.length :=
  Nat.div_lt_of_lt_mul (by rwa [Nat.mul_comm])

theorem position_div (geometry : Geometry) (blocks : List Nat) (index : Nat) :
    geometry.position blocks index / geometry.blockSize =
      blocks.getD (index / geometry.payloadSize) 0 := by
  have inside := Nat.mod_lt index geometry.payloadSize_pos
  have less := @payloadSize_lt geometry
  have within : index % geometry.payloadSize < geometry.blockSize := by omega
  have positive : 0 < geometry.blockSize := by omega
  unfold position
  rw [Nat.mul_comm, Nat.mul_add_div positive, Nat.div_eq_of_lt within, Nat.add_zero]

theorem position_mod (geometry : Geometry) (blocks : List Nat) (index : Nat) :
    geometry.position blocks index % geometry.blockSize = index % geometry.payloadSize := by
  have inside := Nat.mod_lt index geometry.payloadSize_pos
  have less := @payloadSize_lt geometry
  have within : index % geometry.payloadSize < geometry.blockSize := by omega
  unfold position
  rw [Nat.mul_comm, Nat.mul_add_mod, Nat.mod_eq_of_lt within]

/-- The block that holds a byte of the stream. -/
theorem getElem?_position (inside : index < blocks.length * geometry.payloadSize) :
    blocks[index / geometry.payloadSize]? =
      some (geometry.position blocks index / geometry.blockSize) := by
  rw [position_div, List.getD_eq_getElem?_getD,
    List.getElem?_eq_getElem (div_lt_of_lt_capacity inside), Option.getD_some]

theorem position_injOn (nodup : blocks.Nodup) {index' : Nat}
    (inside : index < blocks.length * geometry.payloadSize)
    (inside' : index' < blocks.length * geometry.payloadSize)
    (same : geometry.position blocks index = geometry.position blocks index') : index = index' := by
  have sameBlock : blocks[index / geometry.payloadSize]? = blocks[index' / geometry.payloadSize]? := by
    rw [getElem?_position inside, getElem?_position inside', same]
  have sameStart : index % geometry.payloadSize = index' % geometry.payloadSize := by
    rw [← position_mod geometry blocks index, ← position_mod geometry blocks index', same]
  have samePiece := (List.getElem?_inj (div_lt_of_lt_capacity inside) nodup).mp sameBlock
  rw [← Nat.div_add_mod index geometry.payloadSize, samePiece, sameStart, Nat.div_add_mod]

/-- Positions within one payload follow one another. -/
theorem position_add {start length : Nat} (isBlock : blocks[offset / geometry.payloadSize]? = some block)
    (isStart : start = offset % geometry.payloadSize)
    (within : start + length ≤ geometry.payloadSize) (inside : index < length) :
    geometry.position blocks (offset + index) = block * geometry.blockSize + start + index := by
  have positive := geometry.payloadSize_pos
  have parts := Nat.div_add_mod offset geometry.payloadSize
  have whole : offset + index = start + index + geometry.payloadSize * (offset / geometry.payloadSize) := by
    omega
  unfold position
  rw [whole, Nat.add_mul_div_left _ _ positive, Nat.add_mul_mod_self_left,
    Nat.div_eq_of_lt (by omega), Nat.mod_eq_of_lt (by omega), Nat.zero_add,
    List.getD_eq_getElem?_getD, isBlock, Option.getD_some, Nat.add_assoc]

end Geometry

/-! The stream by positions -/

namespace Content

variable {content : Content}

theorem getElem?_stream (inside : index < blocks.length * geometry.payloadSize) :
    (content.stream geometry blocks)[index]? = some (content.byte (geometry.position blocks index)) := by
  induction blocks generalizing index with
  | nil => simp at inside
  | cons block rest induction =>
      have positive := geometry.payloadSize_pos
      rw [stream, List.flatMap_cons, ← stream, List.getElem?_append, length_payload]
      rw [List.length_cons, Nat.succ_mul] at inside
      rcases Nat.lt_or_ge index geometry.payloadSize with early | late
      · rw [if_pos early, payload, getElem?_read, if_pos early, Geometry.position,
          Nat.div_eq_of_lt early, Nat.mod_eq_of_lt early]
        rfl
      · obtain ⟨back, rfl⟩ := Nat.exists_eq_add_of_le late
        rw [if_neg (by omega), Nat.add_sub_cancel_left, induction (by omega)]
        unfold Geometry.position
        rw [Nat.add_comm geometry.payloadSize back, Nat.add_div_right _ positive, Nat.add_mod_right,
          List.getD_cons_succ]

end Content

/-! Pieces -/

/-- The pieces hold the bytes of the stream from the offset on, one after the other. None of them is
empty, and each ends within the payload of its block. -/
def Piece.Consecutive (geometry : Geometry) (blocks : List Nat) : Nat → List Piece → Prop
  | _, [] => True
  | offset, piece :: rest =>
      (blocks[offset / geometry.payloadSize]? = some piece.block ∧
        piece.start = offset % geometry.payloadSize) ∧
      (0 < piece.length ∧ piece.start + piece.length ≤ geometry.payloadSize) ∧
      Consecutive geometry blocks (offset + piece.length) rest

namespace Piece

theorem Consecutive.cons {pieces : List Piece} (consecutive : Consecutive geometry rest offset pieces) :
    Consecutive geometry (block :: rest) (offset + geometry.payloadSize) pieces := by
  induction pieces generalizing offset with
  | nil => trivial
  | cons piece others induction =>
      obtain ⟨⟨isBlock, isStart⟩, within, follow⟩ := consecutive
      have positive := geometry.payloadSize_pos
      refine ⟨⟨?_, ?_⟩, within, ?_⟩
      · rw [Nat.add_div_right _ positive, List.getElem?_cons_succ, isBlock]
      · rw [Nat.add_mod_right, isStart]
      · have follow := induction follow
        rwa [Nat.add_right_comm] at follow

@[simp] theorem cover_zero (payload : Nat) (blocks : List Nat) (offset : Nat) :
    cover payload blocks offset 0 = [] := by
  cases blocks <;> rfl

/-- The pieces that cover a range are consecutive, and are as long as the range together. -/
theorem consecutive_cover {length : Nat} (fits : offset + length ≤ blocks.length * geometry.payloadSize) :
    Consecutive geometry blocks offset (cover geometry.payloadSize blocks offset length) ∧
      ((cover geometry.payloadSize blocks offset length).map Piece.length).sum = length := by
  induction blocks generalizing offset length with
  | nil =>
      have none : length = 0 := by simp at fits; omega
      exact ⟨trivial, none.symm⟩
  | cons block rest induction =>
      rw [List.length_cons, Nat.succ_mul] at fits
      unfold cover
      by_cases none : length = 0
      · rw [if_pos none]
        exact ⟨trivial, none.symm⟩
      rw [if_neg none]
      rcases Nat.lt_or_ge offset geometry.payloadSize with inside | behind
      · rw [if_neg (Nat.not_le.mpr inside)]
        let here := min (geometry.payloadSize - offset) length
        obtain ⟨follow, sum⟩ := @induction 0 (length - here) (by omega)
        refine ⟨⟨⟨?_, ?_⟩, ⟨?_, ?_⟩, ?_⟩, ?_⟩
        · rw [Nat.div_eq_of_lt inside]
          rfl
        · exact (Nat.mod_eq_of_lt inside).symm
        · show 0 < here
          omega
        · show offset + here ≤ _
          omega
        · rcases Nat.lt_or_ge length (geometry.payloadSize - offset) with part | full
          · rw [show length - here = 0 by omega, cover_zero]
            trivial
          · have follow : Consecutive geometry (block :: rest) (0 + geometry.payloadSize) _ := follow.cons
            rwa [show 0 + geometry.payloadSize = offset + here by omega] at follow
        · rw [List.map_cons, List.sum_cons, sum]
          show here + (length - here) = length
          omega
      · rw [if_pos behind]
        obtain ⟨follow, sum⟩ := @induction (offset - geometry.payloadSize) length (by omega)
        have follow : Consecutive geometry (block :: rest) _ _ := follow.cons
        rw [Nat.sub_add_cancel behind] at follow
        exact ⟨follow, sum⟩

end Piece

/-! Reading -/

namespace Volume

variable {backing : Backing}

theorem readPieces_apply {pieces : List Piece}
    (long : volume.geometry.imageLength ≤ backing.content.size)
    (isData : ∀ block ∈ blocks, volume.geometry.IsData block)
    (consecutive : Piece.Consecutive volume.geometry blocks offset pieces)
    (fits : offset + (pieces.map Piece.length).sum ≤ blocks.length * volume.geometry.payloadSize) :
    volume.readPieces pieces backing =
      .ok (((backing.content.stream volume.geometry blocks).drop offset).take
        (pieces.map Piece.length).sum) := by
  induction pieces generalizing offset with
  | nil => rw [List.map_nil, List.sum_nil, List.take_zero]; rfl
  | cons piece rest induction =>
      obtain ⟨⟨isBlock, isStart⟩, ⟨nonempty, within⟩, follow⟩ := consecutive
      have here := isData piece.block (List.mem_of_getElem? isBlock)
      have stop := volume.geometry.data_end_le here
      have less := @Geometry.payloadSize_lt volume.geometry
      rw [List.map_cons, List.sum_cons] at fits ⊢
      have read : backing.content.read (piece.block * volume.geometry.blockSize + piece.start)
          piece.length =
            ((backing.content.stream volume.geometry blocks).drop offset).take piece.length := by
        apply List.ext_getElem?
        intro index
        rw [Content.getElem?_read, List.getElem?_take, List.getElem?_drop]
        split
        · next inside =>
          rw [Content.getElem?_stream (by omega),
            Geometry.position_add isBlock isStart within inside]
        · rfl
      rw [readPieces, volume.blockOffset_of_isData here]
      refine (Query.bind_ok (Query.lift_ok _ _)).trans ?_
      refine (Query.bind_ok (volume.read_of_long long (by omega))).trans ?_
      refine (Query.bind_ok (induction follow (by omega))).trans ?_
      rw [read, ← List.drop_drop, ← List.take_add]
      rfl

end Volume

/-! Writing -/

/-- The file after the bytes have gone into the stream from the offset on. -/
structure Content.Overwritten (geometry : Geometry) (blocks : List Nat) (offset : Nat) (bytes : Bytes)
    (before after : Content) : Prop where
  size : after.size = before.size
  written : ∀ index byte, bytes[index]? = some byte →
    after.byte (geometry.position blocks (offset + index)) = byte
  elsewhere : ∀ position, (∀ index < bytes.length,
    position ≠ geometry.position blocks (offset + index)) → after.byte position = before.byte position

namespace Content.Overwritten

variable {bytes first second : Bytes} {before middle after : Content}

theorem nil : Overwritten geometry blocks offset [] before before where
  size := rfl
  written _ _ isByte := by cases isByte
  elsewhere _ _ := rfl

theorem piece {start : Nat} (isBlock : blocks[offset / geometry.payloadSize]? = some block)
    (isStart : start = offset % geometry.payloadSize)
    (within : start + bytes.length ≤ geometry.payloadSize)
    (inside : block * geometry.blockSize + start + bytes.length ≤ before.size) :
    Overwritten geometry blocks offset bytes before
      (before.write (block * geometry.blockSize + start) bytes) where
  size := Content.size_write_of_fits before inside
  written index byte isByte := by
    have covered : index < bytes.length := (List.getElem?_eq_some_iff.mp isByte).1
    rw [Geometry.position_add isBlock isStart within covered, Content.byte_write,
      if_pos (Nat.le_add_right _ _), Nat.add_sub_cancel_left, isByte, Option.getD_some]
  elsewhere position apart := by
    apply Content.byte_write_of_apart
    by_contra covered
    have inBytes : position - (block * geometry.blockSize + start) < bytes.length := by omega
    apply apart _ inBytes
    rw [Geometry.position_add isBlock isStart within inBytes]
    omega

theorem append (nodup : blocks.Nodup)
    (fits : offset + (first ++ second).length ≤ blocks.length * geometry.payloadSize)
    (early : Overwritten geometry blocks offset first before middle)
    (late : Overwritten geometry blocks (offset + first.length) second middle after) :
    Overwritten geometry blocks offset (first ++ second) before after where
  size := late.size.trans early.size
  written index byte isByte := by
    rw [List.length_append] at fits
    rw [List.getElem?_append] at isByte
    split at isByte
    · next inFirst =>
      rw [late.elsewhere, early.written index byte isByte]
      intro other inSecond same
      have equal := Geometry.position_injOn nodup (by omega) (by omega) same
      omega
    · next inSecond =>
      have isByte' := late.written _ byte isByte
      rwa [Nat.add_assoc, Nat.add_sub_cancel' (Nat.not_lt.mp inSecond)] at isByte'
  elsewhere position apart := by
    rw [List.length_append] at apart
    rw [late.elsewhere, early.elsewhere]
    · exact fun index inFirst => apart index (by omega)
    · intro index inSecond
      rw [Nat.add_assoc]
      exact apart _ (by omega)

/-- Reading back shows the bytes laid over the old stream. -/
theorem stream (nodup : blocks.Nodup)
    (fits : offset + bytes.length ≤ blocks.length * geometry.payloadSize)
    (overwritten : Overwritten geometry blocks offset bytes before after) :
    after.stream geometry blocks = (before.stream geometry blocks).overlay offset bytes := by
  have length : (before.stream geometry blocks).length = blocks.length * geometry.payloadSize :=
    before.length_stream blocks
  apply List.ext_getElem?
  intro index
  rw [Bytes.getElem?_overlay _ (by omega)]
  rcases Nat.lt_or_ge index (blocks.length * geometry.payloadSize) with inside | outside
  · rw [getElem?_stream inside, getElem?_stream inside]
    split
    · next covered =>
      have isByte := List.getElem?_eq_getElem (show index - offset < bytes.length by omega)
      have written := overwritten.written _ _ isByte
      rw [Nat.add_sub_cancel' covered.1] at written
      rw [written, isByte]
    · next apart =>
      rw [overwritten.elsewhere]
      intro other covered same
      have equal := Geometry.position_injOn nodup inside (by omega) same
      omega
  · rw [List.getElem?_eq_none (by rw [length_stream]; exact outside), if_neg (by omega),
      List.getElem?_eq_none (by omega)]

/-- Links lie behind the payloads. -/
theorem next_eq (overwritten : Overwritten geometry blocks offset bytes before after) (block : Nat) :
    after.next geometry block = before.next geometry block := by
  have sum := geometry.payloadSize_add
  unfold Content.next Content.area
  rw [Content.read_congr]
  intro position behind within
  apply overwritten.elsewhere
  rintro index - rfl
  have start := Nat.mod_lt (offset + index) geometry.payloadSize_pos
  have inBlock : geometry.position blocks (offset + index) / geometry.blockSize = block :=
    Nat.div_eq_of_lt_le (Nat.le_of_add_right_le behind) (by
      simp only [Area.first, Area.length] at within
      rw [Nat.succ_mul]
      omega)
  have parts := Nat.div_add_mod (geometry.position blocks (offset + index)) geometry.blockSize
  rw [inBlock, Geometry.position_mod, Nat.mul_comm] at parts
  simp only [Area.first] at behind
  omega

theorem block_eq (fits : offset + bytes.length ≤ blocks.length * geometry.payloadSize)
    (overwritten : Overwritten geometry blocks offset bytes before after) (notMember : block ∉ blocks) :
    after.read (block * geometry.blockSize) geometry.blockSize =
      before.read (block * geometry.blockSize) geometry.blockSize := by
  apply Content.read_congr
  intro position behind within
  apply overwritten.elsewhere
  rintro index covered rfl
  have inBlock : geometry.position blocks (offset + index) / geometry.blockSize = block :=
    Nat.div_eq_of_lt_le behind (by rwa [Nat.succ_mul])
  have isBlock := @Geometry.getElem?_position geometry _ blocks
    (show offset + index < blocks.length * geometry.payloadSize by omega)
  rw [inBlock] at isBlock
  exact notMember (List.mem_of_getElem? isBlock)

end Content.Overwritten

namespace Volume

variable {backing : Backing} {bytes : Bytes}

/-- Each piece takes its part of the bytes to the positions of the stream that it stands for. -/
theorem writePieces_apply {pieces : List Piece}
    (long : volume.geometry.imageLength ≤ backing.content.size)
    (isData : ∀ block ∈ blocks, volume.geometry.IsData block) (nodup : blocks.Nodup)
    (consecutive : Piece.Consecutive volume.geometry blocks offset pieces)
    (sum : (pieces.map Piece.length).sum = bytes.length)
    (fits : offset + bytes.length ≤ blocks.length * volume.geometry.payloadSize) :
    ∃ content, volume.writePieces pieces bytes backing = (.ok (), { backing with content }) ∧
      Content.Overwritten volume.geometry blocks offset bytes backing.content content := by
  induction pieces generalizing offset bytes backing with
  | nil =>
      have none : bytes = [] := List.eq_nil_of_length_eq_zero sum.symm
      subst none
      exact ⟨backing.content, rfl, .nil⟩
  | cons piece rest induction =>
      obtain ⟨⟨isBlock, isStart⟩, ⟨nonempty, within⟩, follow⟩ := consecutive
      have here := isData piece.block (List.mem_of_getElem? isBlock)
      have stop := volume.geometry.data_end_le here
      have less := @Geometry.payloadSize_lt volume.geometry
      rw [List.map_cons, List.sum_cons] at sum
      have first : (bytes.take piece.length).length = piece.length := by
        rw [List.length_take]
        omega
      have second : (bytes.drop piece.length).length = (rest.map Piece.length).sum := by
        rw [List.length_drop]
        omega
      have inside : piece.block * volume.geometry.blockSize + piece.start +
          (bytes.take piece.length).length ≤ volume.geometry.imageLength := by
        omega
      have early := @Content.Overwritten.piece _ _ _ _ _ backing.content _ isBlock isStart
        (first.symm ▸ within) (Nat.le_trans inside long)
      let middle : Backing :=
        { backing with
          content := backing.content.write
            (piece.block * volume.geometry.blockSize + piece.start) (bytes.take piece.length) }
      obtain ⟨content, writes, late⟩ := @induction _ middle (bytes.drop piece.length)
        (early.size ▸ long) follow second.symm (by omega)
      use content
      constructor
      · rw [writePieces, volume.blockOffset_of_isData here]
        exact (Update.bind_ok (volume.write_apply backing inside)).trans writes
      · rw [← List.take_append_drop piece.length bytes]
        apply Content.Overwritten.append nodup _ early
        · rwa [first]
        · rwa [List.take_append_drop]

/-- Distinct data blocks hold less than the machine can count, so that a range that does not fit is
refused. -/
theorem pieces_of_exceeds {length : Nat} (isData : ∀ block ∈ blocks, volume.geometry.IsData block)
    (nodup : blocks.Nodup)
    (exceeds : blocks.length * volume.geometry.payloadSize < offset + length) :
    ∃ error, volume.pieces blocks offset length = .error error := by
  have addressable : volume.geometry.imageLength < Limit.word64 := volume.geometry.addressable
  have capacity : blocks.length * volume.geometry.payloadSize < volume.geometry.imageLength :=
    Nat.lt_of_le_of_lt (Nat.mul_le_mul_right _ (volume.geometry.length_le_blocks isData nodup))
      volume.geometry.blocks_mul_lt
  have refused : volume.chainCapacity blocks < min (offset + length) (Limit.word64 - 1) := by
    unfold chainCapacity
    omega
  unfold pieces
  rw [if_pos refused]
  exact ⟨_, rfl⟩

theorem readChain_apply (long : volume.geometry.imageLength ≤ backing.content.size)
    (isData : ∀ block ∈ blocks, volume.geometry.IsData block) {start length : Nat}
    (fits : start + length ≤ blocks.length * volume.geometry.payloadSize) :
    volume.readChain blocks start length backing =
      .ok (((backing.content.stream volume.geometry blocks).drop start).take length) := by
  obtain ⟨consecutive, sum⟩ := Piece.consecutive_cover fits
  unfold readChain
  rw [pieces_of_fits fits]
  refine (Query.bind_ok (Query.lift_ok _ _)).trans ?_
  have reads := readPieces_apply long isData consecutive (sum.symm ▸ fits)
  rwa [sum] at reads

/-- Data blocks without repetition hold a stream: a write into it succeeds exactly when it fits, and is
what is read afterwards; it touches the positions of its range and nothing else. -/
theorem stream_laws (long : volume.geometry.imageLength ≤ backing.content.size)
    (isData : ∀ block ∈ blocks, volume.geometry.IsData block) (nodup : blocks.Nodup)
    (offset : Nat) (bytes : Bytes) :
    let geometry := volume.geometry
    let capacity := blocks.length * geometry.payloadSize
    let stream := backing.content.stream geometry blocks
    (∀ start length, start + length ≤ capacity →
      volume.readChain blocks start length backing = .ok ((stream.drop start).take length)) ∧
    (capacity < offset + bytes.length → ∃ error,
      volume.writeChain blocks offset bytes backing = (.error (.failed error), backing)) ∧
    (offset + bytes.length ≤ capacity → ∃ pieces content,
      volume.pieces blocks offset bytes.length = .ok pieces ∧
      Piece.Consecutive geometry blocks offset pieces ∧
      (pieces.map Piece.length).sum = bytes.length ∧
      volume.writeChain blocks offset bytes backing = (.ok (), { backing with content }) ∧
      Content.Overwritten geometry blocks offset bytes backing.content content ∧
      (∀ block, content.next geometry block = backing.content.next geometry block) ∧
      (∀ block ∉ blocks, content.read (block * geometry.blockSize) geometry.blockSize =
        backing.content.read (block * geometry.blockSize) geometry.blockSize) ∧
      ∀ start length, start + length ≤ capacity →
        volume.readChain blocks start length { backing with content } =
          .ok (((stream.overlay offset bytes).drop start).take length)) := by
  intro geometry capacity stream
  refine ⟨fun start length fits => readChain_apply long isData fits, fun exceeds => ?_, fun fits => ?_⟩
  · obtain ⟨error, refused⟩ := pieces_of_exceeds isData nodup exceeds
    use error
    unfold writeChain
    rw [refused]
    rfl
  · obtain ⟨consecutive, sum⟩ := Piece.consecutive_cover fits
    obtain ⟨content, writes, overwritten⟩ :=
      writePieces_apply long isData nodup consecutive sum fits
    have covered := @pieces_of_fits volume _ _ _ fits
    have wrote : volume.writeChain blocks offset bytes backing = (.ok (), { backing with content }) := by
      unfold writeChain
      rw [covered]
      exact writes
    refine ⟨_, content, covered, consecutive, sum, wrote, overwritten, overwritten.next_eq,
      fun block => overwritten.block_eq fits, fun start length fits' => ?_⟩
    have long' : geometry.imageLength ≤ content.size := overwritten.size ▸ long
    rw [@readChain_apply volume blocks { backing with content } long' isData _ _ fits',
      overwritten.stream nodup fits]

/-- A file of zeros: two bytes that straddle the first two data blocks, the anchor block among them. -/
theorem stream_laws_zeros :
    let backing : Backing := ⟨Content.empty.resize Session.smallest.imageLength, []⟩
    let volume := Session.smallest.volume 0
    let blocks := [Session.smallest.blockOfBit 1, Session.smallest.blockOfBit 0]
    (volume.geometry.imageLength ≤ backing.content.size ∧
      (∀ block ∈ blocks, volume.geometry.IsData block) ∧ blocks.Nodup) ∧
    ∃ content, volume.writeChain blocks 1015 [1, 2] backing = (.ok (), { backing with content }) ∧
      content.byte (Session.smallest.blockOfBit 1 * 1024 + 1015) = 1 ∧
      content.byte (Session.smallest.blockOfBit 0 * 1024) = 2 ∧
      ∃ error, volume.writeChain blocks 2031 [1, 2] backing = (.error (.failed error), backing) := by
  intro backing volume blocks
  have long : volume.geometry.imageLength ≤ backing.content.size := Nat.le_refl _
  have isData : ∀ block ∈ blocks, volume.geometry.IsData block := by
    decide
  have nodup : blocks.Nodup := by
    decide
  obtain ⟨-, -, fits⟩ := stream_laws long isData nodup 1015 [1, 2]
  obtain ⟨-, exceeds, -⟩ := stream_laws long isData nodup 2031 [1, 2]
  obtain ⟨-, content, -, -, -, wrote, overwritten, -⟩ := fits (by decide)
  have first : Session.smallest.position blocks (1015 + 0) =
      Session.smallest.blockOfBit 1 * 1024 + 1015 := by
    decide
  have second : Session.smallest.position blocks (1015 + 1) =
      Session.smallest.blockOfBit 0 * 1024 := by
    decide
  refine ⟨⟨long, isData, nodup⟩, content, wrote, ?_, ?_, exceeds (by decide)⟩
  · rw [← first]
    exact overwritten.written 0 1 rfl
  · rw [← second]
    exact overwritten.written 1 2 rfl

end Volume

end ImageFs
