import ImageFs.Proofs.Header
import ImageFs.Proofs.Metadata
import ImageFs.Proofs.Session

/-!
The records of the format and their bytes. Main statement: a superblock, an inode and a directory entry
are read back from the bytes that they are written as, and are written as the bytes that they were read
from; a name comes back whole when there is no zero in it, and a record with a name when behind the
first zero of its name field there are only zeros.
-/

namespace ImageFs

/-! Fields in a row -/

namespace Field

variable {fields : List (Nat × Bytes)} {front region : Bytes}

theorem write_append {patch : Bytes} (fits : patch.length ≤ region.length)
    (bound : front.length + patch.length < Limit.word64) :
    write (front ++ region) front.length patch =
      .ok (front ++ patch ++ region.drop patch.length) := by
  have inside : front.length + patch.length ≤ (front ++ region).length := by
    rw [List.length_append]
    exact Nat.add_le_add_left fits _
  rw [write_of_le inside bound]
  unfold Bytes.overlay
  rw [List.take_left, List.drop_length_add_append]

/-- Fields in a row take the place of as many bytes. -/
theorem writeAll_row (row : Row front.length fields)
    (fits : (fields.flatMap Prod.snd).length ≤ region.length)
    (bound : front.length + (fields.flatMap Prod.snd).length < Limit.word64) :
    writeAll fields (front ++ region) =
      (.ok (), front ++ fields.flatMap Prod.snd ++ region.drop (fields.flatMap Prod.snd).length) := by
  induction fields generalizing front region with
  | nil => simp [writeAll]
  | cons field rest induction =>
      obtain ⟨offset, part⟩ := field
      obtain ⟨isOffset, row⟩ := row
      subst isOffset
      simp only [List.flatMap_cons, List.length_append] at fits bound ⊢
      have written := @write_append front region part (by omega) (by omega)
      have others := @induction (front ++ part) (region.drop part.length)
        (by rwa [List.length_append]) (by rw [List.length_drop]; omega)
        (by rw [List.length_append]; omega)
      unfold writeAll
      rw [written]
      dsimp only
      rw [others, List.drop_drop, List.append_assoc front]

theorem slice_eq_ok {bytes part : Bytes} {offset count : Nat}
    (read : slice bytes offset count = .ok part) :
    part = (bytes.drop offset).take count ∧ offset + count ≤ bytes.length := by
  unfold slice at read
  split at read
  · cases read
  · split at read
    · cases read
    · next long => exact ⟨(Except.ok.inj read).symm, Nat.le_of_not_lt long⟩

/-- Bytes in which fields in a row can all be read begin with those fields. -/
theorem prefix_of_row (row : Row front.length fields)
    (read : ∀ offset part, (offset, part) ∈ fields →
      slice (front ++ region) offset part.length = .ok part) :
    fields.flatMap Prod.snd <+: region := by
  induction fields generalizing front region with
  | nil => exact List.nil_prefix
  | cons field rest induction =>
      obtain ⟨offset, part⟩ := field
      obtain ⟨isOffset, row⟩ := row
      subst isOffset
      obtain ⟨isPart, long⟩ := slice_eq_ok (read _ part List.mem_cons_self)
      rw [List.drop_left] at isPart
      obtain ⟨back, rfl⟩ := List.prefix_iff_eq_take.mpr isPart
      have others := @induction (front ++ part) back (by rwa [List.length_append])
      rw [List.append_assoc] at others
      rw [List.flatMap_cons]
      exact (List.prefix_append_right_inj part).mpr
        (others fun offset part member => read offset part (List.mem_cons_of_mem _ member))

/-- A range within the first bytes is read from them. -/
theorem slice_take {bytes : Bytes} {kept offset count : Nat} (inside : offset + count ≤ kept)
    (long : kept ≤ bytes.length) :
    slice (bytes.take kept) offset count = slice bytes offset count := by
  have length : (bytes.take kept).length = kept := List.length_take_of_le long
  unfold slice
  rw [length, if_neg (show ¬ kept < offset + count by omega),
    if_neg (show ¬ bytes.length < offset + count by omega), List.drop_take, List.take_take,
    Nat.min_eq_left (by omega)]

theorem readWord32_take {bytes : Bytes} {kept offset : Nat} (inside : offset + 4 ≤ kept)
    (long : kept ≤ bytes.length) :
    readWord32 (bytes.take kept) offset = readWord32 bytes offset := by
  unfold readWord32
  rw [slice_take inside long]

theorem length_slice {bytes part : Bytes} {offset count : Nat}
    (read : slice bytes offset count = .ok part) : part.length = count := by
  obtain ⟨rfl, long⟩ := slice_eq_ok read
  rw [List.length_take, List.length_drop]
  omega

theorem slice_of_readWord32 {bytes : Bytes} {offset : Nat} {word : UInt32}
    (read : readWord32 bytes offset = .ok word) :
    slice bytes offset 4 = .ok (.ofUInt32 word) := by
  unfold readWord32 at read
  cases sliced : slice bytes offset 4 with
  | error error => rw [sliced] at read; cases read
  | ok part =>
      rw [sliced] at read
      obtain rfl : Bytes.toUInt32 part = word := Except.ok.inj read
      rw [Bytes.ofUInt32_toUInt32 (length_slice sliced)]

theorem slice_of_readWord64 {bytes : Bytes} {offset : Nat} {word : UInt64}
    (read : readWord64 bytes offset = .ok word) :
    slice bytes offset 8 = .ok (.ofUInt64 word) := by
  unfold readWord64 at read
  cases sliced : slice bytes offset 8 with
  | error error => rw [sliced] at read; cases read
  | ok part =>
      rw [sliced] at read
      obtain rfl : Bytes.toUInt64 part = word := Except.ok.inj read
      rw [Bytes.ofUInt64_toUInt64 (length_slice sliced)]

end Field

/-! The superblock -/

namespace Superblock

variable {superblock : Superblock} {region : Bytes}

/-- Of a region, the superblock is read from the first bytes alone. -/
theorem parse_take (long : length ≤ region.length) :
    parse (region.take length) = parse region := by
  unfold parse
  rw [Field.readWord32_take (by decide) long, Field.slice_take (by decide) long]

theorem writeTo_eq (superblock : Superblock) (long : length ≤ region.length) :
    superblock.writeTo region = (.ok (), superblock.encode ++ region.drop length) := by
  have isLength : (superblock.fields.flatMap Prod.snd).length = length := superblock.length_encode
  have written := @Field.writeAll_row superblock.fields [] region superblock.row_fields
    (by rwa [isLength]) (by rw [isLength]; decide)
  rw [isLength] at written
  exact written

theorem parse_writeTo (magic : superblock.magic = magicNumber) (long : length ≤ region.length) :
    parse (superblock.writeTo region).2 = .ok superblock := by
  rw [writeTo_eq superblock long]
  dsimp only
  rw [← parse_take (by rw [List.length_append, length_encode]; exact Nat.le_add_right _ _),
    List.take_left' superblock.length_encode]
  exact parse_encode magic

/-- A superblock that was read is the row of the bytes that it was read from. -/
theorem encode_of_parse (parsed : parse region = .ok superblock) :
    superblock.encode <+: region := by
  unfold parse at parsed
  obtain ⟨magic, isMagic, parsed⟩ := Except.exists_of_bind_ok parsed
  split at parsed
  · cases parsed
  obtain ⟨record, sliced, parsed⟩ := Except.exists_of_bind_ok parsed
  obtain ⟨rfl, long⟩ := Field.slice_eq_ok sliced
  rw [List.drop_zero] at parsed
  rw [← Field.readWord32_take (show 0 + 4 ≤ length by decide) (by omega)] at isMagic
  obtain ⟨blockSize, isBlockSize, parsed⟩ := Except.exists_of_bind_ok parsed
  obtain ⟨blocks, isBlocks, parsed⟩ := Except.exists_of_bind_ok parsed
  obtain ⟨freeBlocks, isFreeBlocks, parsed⟩ := Except.exists_of_bind_ok parsed
  obtain ⟨nextFreeBlock, isNextFreeBlock, parsed⟩ := Except.exists_of_bind_ok parsed
  obtain ⟨bitmapBlocks, isBitmapBlocks, parsed⟩ := Except.exists_of_bind_ok parsed
  obtain ⟨inodeTableBlocks, isInodeTableBlocks, parsed⟩ := Except.exists_of_bind_ok parsed
  obtain ⟨dataStart, isDataStart, parsed⟩ := Except.exists_of_bind_ok parsed
  obtain ⟨firstInodeBlock, isFirstInodeBlock, parsed⟩ := Except.exists_of_bind_ok parsed
  obtain ⟨nextFreeInode, isNextFreeInode, parsed⟩ := Except.exists_of_bind_ok parsed
  obtain ⟨inodeCount, isInodeCount, parsed⟩ := Except.exists_of_bind_ok parsed
  cases parsed
  refine List.IsPrefix.trans ?_ (List.take_prefix length region)
  refine @Field.prefix_of_row _ [] (region.take length) (row_fields _) ?_
  intro offset part member
  simp only [fields, List.mem_cons, List.not_mem_nil, or_false, Prod.mk.injEq] at member
  rcases member with ⟨rfl, rfl⟩ | ⟨rfl, rfl⟩ | ⟨rfl, rfl⟩ | ⟨rfl, rfl⟩ | ⟨rfl, rfl⟩ | ⟨rfl, rfl⟩ |
    ⟨rfl, rfl⟩ | ⟨rfl, rfl⟩ | ⟨rfl, rfl⟩ | ⟨rfl, rfl⟩ | ⟨rfl, rfl⟩
  · exact Field.slice_of_readWord32 isMagic
  · exact Field.slice_of_readWord32 isBlockSize
  all_goals exact Field.slice_of_readWord64 ‹_›

theorem writeTo_of_parse (parsed : parse region = .ok superblock) :
    superblock.writeTo region = (.ok (), region) := by
  obtain ⟨back, rfl⟩ := encode_of_parse parsed
  have isLength := superblock.length_encode
  rw [writeTo_eq superblock (by rw [List.length_append, isLength]; exact Nat.le_add_right _ _),
    List.drop_left' isLength]

end Superblock

/-! Names in their fields -/

namespace Text

/-- What stands before the first zero of a text in UTF-8 is a text. -/
theorem exists_bytesOf_beforeZero (text : String) :
    ∃ front, (bytesOf text).beforeZero = bytesOf front := by
  suffices cut : ∀ chars : List Char, ∃ kept : List Char,
      Bytes.beforeZero (chars.flatMap String.utf8EncodeChar) =
        kept.flatMap String.utf8EncodeChar by
    obtain ⟨kept, isCut⟩ := cut text.toList
    refine ⟨String.ofList kept, ?_⟩
    unfold bytesOf
    rw [isCut, String.toList_ofList]
  intro chars
  induction chars with
  | nil => exact ⟨[], rfl⟩
  | cons char chars induction =>
      by_cases isZero : char = '\x00'
      · subst isZero
        exact ⟨[], rfl⟩
      · obtain ⟨kept, isCut⟩ := induction
        refine ⟨char :: kept, ?_⟩
        have nonzero : ∀ byte ∈ String.utf8EncodeChar char, (byte != 0) = true :=
          fun byte member => bne_iff_ne.mpr (encoded_ne_zero isZero member)
        unfold Bytes.beforeZero at isCut ⊢
        rw [List.flatMap_cons, List.flatMap_cons, List.takeWhile_append_of_pos nonzero, isCut]

theorem exists_bytesOf_of_isValidUTF8 {bytes : Bytes} (valid : bytes.toByteArray.IsValidUTF8) :
    ∃ text, bytes = bytesOf text := by
  obtain ⟨chars, isEncoded⟩ := valid
  refine ⟨String.ofList chars, ?_⟩
  unfold bytesOf
  rw [String.toList_ofList]
  exact List.toByteArray_inj.mp isEncoded

end Text

theorem Bytes.beforeZero_append_zeros (bytes : Bytes) (count : Nat) :
    (bytes ++ Bytes.zeros count).beforeZero = bytes.beforeZero := by
  unfold beforeZero zeros
  rw [List.takeWhile_append, List.takeWhile_replicate, bne_self_eq_false]
  split
  · next whole => simpa using ((List.takeWhile_prefix _).eq_of_length whole).symm
  · rfl

namespace Field

/-- A name field as it is written: UTF-8 in front of a zero, and from there on only zeros. -/
structure Canonical (field : Bytes) : Prop where
  valid : field.beforeZero.toByteArray.IsValidUTF8
  terminated : 0 ∈ field
  cleared : ∀ byte ∈ field.drop field.beforeZero.length, byte = 0

variable {field : Bytes} {width : Nat}

theorem Canonical.exists_eq_append (canonical : Canonical field) :
    ∃ count, 0 < count ∧ field = field.beforeZero ++ Bytes.zeros count := by
  have joined : field.beforeZero ++ field.drop field.beforeZero.length = field :=
    List.prefix_iff_eq_append.mp (List.takeWhile_prefix _)
  have zeros : field.drop field.beforeZero.length =
      Bytes.zeros (field.drop field.beforeZero.length).length :=
    List.eq_replicate_of_mem canonical.cleared
  refine ⟨(field.drop field.beforeZero.length).length, ?_, by rw [← zeros, joined]⟩
  apply List.length_pos_iff.mpr
  intro none
  rw [none, List.append_nil] at joined
  have terminated := canonical.terminated
  rw [← joined] at terminated
  cases List.all_eq_true.mp List.all_takeWhile 0 terminated

theorem padName_ok_iff {name : Bytes} :
    padName width name = .ok field ↔ name.length < width ∧ padded width name = field := by
  unfold padName checkName
  split
  · next long =>
    constructor
    · intro filled
      cases filled
    · intro fits
      exact absurd long (Nat.not_le.mpr fits.1)
  · next short =>
    constructor
    · intro filled
      exact ⟨Nat.lt_of_not_le short, Except.ok.inj filled⟩
    · intro fits
      exact congrArg Except.ok fits.2

/-- A name field is what its own text is padded to when it is canonical, and only then. -/
theorem padName_nameText_iff (length : field.length = width) :
    padName width (Text.bytesOf (nameText field)) = .ok field ↔ Canonical field := by
  constructor
  · intro filled
    obtain ⟨short, isField⟩ := padName_ok_iff.mp filled
    unfold padded at isField
    -- the text was cut at the first zero, so that there is none in it
    have front : field.beforeZero = Text.bytesOf (nameText field) := by
      obtain ⟨text, isText⟩ := Text.exists_bytesOf_beforeZero (nameText field)
      have cut := Bytes.beforeZero_append_zeros (Text.bytesOf (nameText field))
        (width - (Text.bytesOf (nameText field)).length)
      rw [isField, isText] at cut
      rw [nameText, cut, Text.ofBytes_bytesOf]
    have back := congrArg (List.drop (Text.bytesOf (nameText field)).length) isField
    rw [List.drop_left] at back
    constructor
    · rw [front]
      exact ⟨(nameText field).toList, rfl⟩
    · rw [← isField]
      apply List.mem_append_right
      exact List.mem_replicate.mpr ⟨Nat.sub_ne_zero_of_lt short, rfl⟩
    · intro byte member
      rw [front, ← back] at member
      exact List.eq_of_mem_replicate member
  · intro canonical
    obtain ⟨count, positive, isField⟩ := canonical.exists_eq_append
    obtain ⟨text, isText⟩ := Text.exists_bytesOf_of_isValidUTF8 canonical.valid
    have isName : nameText field = text := by
      unfold nameText
      rw [isText, Text.ofBytes_bytesOf]
    rw [isText] at isField
    have lengths := congrArg List.length isField
    rw [List.length_append, Bytes.length_zeros, length] at lengths
    apply padName_ok_iff.mpr
    rw [isName]
    refine ⟨by omega, ?_⟩
    unfold padded
    rw [show width - (Text.bytesOf text).length = count by omega, ← isField]

end Field

/-! Records with a name in front -/

section

variable {α : Type} (encode : α → Except RecordError Bytes) (parse : Bytes → Except RecordError α)
  (name : α → String)

/-- A codec of records that are a name, padded to a width, and a tail that the value determines. -/
structure NameFirst (width : Nat) (tail : α → Bytes) : Prop where
  encode_eq : ∀ value, encode value = do
    let field ← Field.padName width (Text.bytesOf (name value))
    return field ++ tail value
  length_encode : ∀ value record, encode value = .ok record → record.length = 256
  parse_encode : ∀ value record, encode value = .ok record →
    Field.nameText (record.take width) = name value → parse record = .ok value
  tail_of_parse : ∀ value record, record.length = 256 → parse record = .ok value →
    Field.nameText (record.take width) = name value ∧ record.drop width = tail value

/-- What a codec of records of 256 bytes keeps when names of up to `longest` bytes fit. -/
structure RoundTrips (longest : Nat) : Prop where
  encodes_iff : ∀ value, (∃ record, encode value = .ok record) ↔ (name value).utf8ByteSize ≤ longest
  length : ∀ value record, encode value = .ok record → record.length = 256
  parses : ∀ value record, '\x00' ∉ (name value).toList → encode value = .ok record →
    parse record = .ok value
  encodes_back_iff : ∀ value record, record.length = 256 → parse record = .ok value →
    (encode value = .ok record ↔ Field.Canonical (record.take (longest + 1)))

variable {encode parse name} {longest : Nat} {tail : α → Bytes}

theorem NameFirst.roundTrips (nameFirst : NameFirst encode parse name (longest + 1) tail)
    (inside : longest < 256) : RoundTrips encode parse name longest where
  encodes_iff value := by
    rw [nameFirst.encode_eq, ← Nat.lt_add_one_iff, ← Text.length_bytesOf]
    constructor
    · rintro ⟨record, encoded⟩
      obtain ⟨field, filled, -⟩ := Except.exists_of_bind_ok encoded
      exact (Field.padName_ok_iff.mp filled).1
    · intro short
      rw [Field.padName_ok_iff.mpr ⟨short, rfl⟩]
      exact ⟨_, rfl⟩
  length := nameFirst.length_encode
  parses value record noZero encoded := by
    apply nameFirst.parse_encode value record encoded
    rw [nameFirst.encode_eq] at encoded
    obtain ⟨field, filled, encoded⟩ := Except.exists_of_bind_ok encoded
    cases encoded
    rw [List.take_left' (Field.length_padName filled), ← (Field.padName_ok_iff.mp filled).2]
    exact Field.nameText_padded noZero
  encodes_back_iff value record length parsed := by
    obtain ⟨isName, isTail⟩ := nameFirst.tail_of_parse value record length parsed
    have fieldLength : (record.take (longest + 1)).length = longest + 1 :=
      List.length_take_of_le (by omega)
    rw [nameFirst.encode_eq, ← isName, ← Field.padName_nameText_iff fieldLength]
    constructor
    · intro encoded
      obtain ⟨field, filled, encoded⟩ := Except.exists_of_bind_ok encoded
      have joined : field ++ tail value = record := Except.ok.inj encoded
      have isField : record.take (longest + 1) = field := by
        rw [← joined, List.take_left' (Field.length_padName filled)]
      rw [isField] at filled ⊢
      exact filled
    · intro filled
      rw [filled, ← isTail]
      exact congrArg Except.ok (List.take_append_drop _ record)

end

/-! Inodes and directory entries -/

theorem Bytes.drop_eq_headD_cons {bytes : Bytes} {position : Nat} (inside : position < bytes.length) :
    bytes.drop position = (bytes.drop position).headD 0 :: bytes.drop (position + 1) := by
  rw [List.drop_eq_getElem_cons inside]
  rfl

namespace Inode

/-- What stands behind the name. -/
def tail (inode : Inode) : Bytes :=
  [inode.kind.toByte, inode.generation] ++ .ofUInt64 inode.size ++ .ofUInt64 inode.firstBlock

theorem nameFirst : NameFirst encode parse name nameWidth tail where
  encode_eq inode := by
    unfold encode tail
    simp only [List.append_assoc]
  length_encode inode record := length_encode
  parse_encode inode record encoded isName := by
    rw [parse_encode encoded, isName]
  tail_of_parse inode record length parsed := by
    rw [parse, Field.slice_whole length (by decide)] at parsed
    obtain ⟨_, isRecord, parsed⟩ := Except.exists_of_bind_ok parsed
    cases isRecord
    obtain ⟨kind, isKind, parsed⟩ := Except.exists_of_bind_ok parsed
    cases parsed
    refine ⟨rfl, ?_⟩
    have lastLength : (record.drop 248).length = 8 := by rw [List.length_drop, length]
    have sizeLength : ((record.drop 240).take 8).length = 8 := by
      rw [List.length_take, List.length_drop, length]
      rfl
    have behind : (record.drop 240).drop 8 = record.drop 248 := List.drop_drop
    unfold tail
    dsimp only
    rw [InodeKind.toByte_of_ofByte isKind, List.take_of_length_le (Nat.le_of_eq lastLength),
      Bytes.ofUInt64_toUInt64 lastLength, Bytes.ofUInt64_toUInt64 sizeLength]
    calc record.drop 238
      _ = (record.drop 238).headD 0 :: record.drop 239 := Bytes.drop_eq_headD_cons (by omega)
      _ = (record.drop 238).headD 0 :: (record.drop 239).headD 0 :: record.drop 240 :=
        congrArg _ (Bytes.drop_eq_headD_cons (by omega))
      _ = [(record.drop 238).headD 0, (record.drop 239).headD 0] ++ (record.drop 240).take 8 ++
          record.drop 248 := by
        rw [← behind, List.append_assoc, List.take_append_drop]
        rfl

end Inode

namespace DirEntry

def tail (entry : DirEntry) : Bytes :=
  .ofUInt64 entry.inode

theorem nameFirst : NameFirst encode parse name nameWidth tail where
  encode_eq entry := rfl
  length_encode entry record := length_encode
  parse_encode entry record encoded isName := by
    rw [parse_eq_ofRecord (length_encode encoded), ofRecord, isName]
    unfold encode at encoded
    obtain ⟨field, filled, encoded⟩ := Except.exists_of_bind_ok encoded
    cases encoded
    rw [List.drop_left' (Field.length_padName filled),
      List.take_of_length_le (Nat.le_of_eq (Bytes.length_ofUInt64 _)), Bytes.toUInt64_ofUInt64]
  tail_of_parse entry record length parsed := by
    rw [parse_eq_ofRecord length] at parsed
    cases parsed
    refine ⟨rfl, ?_⟩
    have all : (record.drop nameWidth).length = 8 := by
      rw [List.length_drop, length]
      rfl
    unfold tail ofRecord
    dsimp only
    rw [List.take_of_length_le (Nat.le_of_eq all), Bytes.ofUInt64_toUInt64 all]

end DirEntry

/-! The whole format -/

theorem records_round_trip :
    (∀ (superblock : Superblock) (region : Bytes), superblock.magic = Superblock.magicNumber →
      Superblock.length ≤ region.length →
      ∃ written, superblock.writeTo region = (.ok (), written) ∧
        Superblock.parse written = .ok superblock ∧ written.length = region.length ∧
        written.drop Superblock.length = region.drop Superblock.length) ∧
    (∀ (superblock : Superblock) (region : Bytes), Superblock.parse region = .ok superblock →
      superblock.writeTo region = (.ok (), region)) ∧
    RoundTrips Inode.encode Inode.parse Inode.name 237 ∧
    RoundTrips DirEntry.encode DirEntry.parse DirEntry.name 247 := by
  refine ⟨fun superblock region magic long => ?_, fun superblock region => Superblock.writeTo_of_parse,
    Inode.nameFirst.roundTrips (by decide), DirEntry.nameFirst.roundTrips (by decide)⟩
  have written := Superblock.writeTo_eq superblock long
  have parsed := Superblock.parse_writeTo magic long
  have front := superblock.length_encode
  rw [written] at parsed
  refine ⟨_, written, parsed, ?_, List.drop_left' front⟩
  rw [List.length_append, front, List.length_drop, Nat.add_sub_cancel' long]

theorem records_round_trip_fresh :
    (∃ written, (Superblock.fresh Session.smallest).writeTo (Bytes.zeros 81) = (.ok (), written) ∧
      Superblock.parse written = .ok (Superblock.fresh Session.smallest)) ∧
    (∃ record, (Inode.new "a" .file).encode = .ok record ∧
      Inode.parse record = .ok (Inode.new "a" .file) ∧ Field.Canonical (record.take 238)) ∧
    (¬ ∃ record, (DirEntry.mk (String.ofList (List.replicate 248 'a')) 2).encode = .ok record) := by
  obtain ⟨writes, -, inodes, entries⟩ := records_round_trip
  obtain ⟨written, isWritten, parsed, -⟩ := writes (Superblock.fresh Session.smallest)
    (Bytes.zeros 81) rfl (by decide)
  obtain ⟨record, encoded⟩ := (inodes.encodes_iff (Inode.new "a" .file)).mpr (by decide)
  have read := inodes.parses _ record (by decide) encoded
  have canonical := (inodes.encodes_back_iff _ record (inodes.length _ record encoded) read).mp encoded
  refine ⟨⟨written, isWritten, parsed⟩, ⟨record, encoded, read, canonical⟩, fun encodes => ?_⟩
  have short := (entries.encodes_iff _).mp encodes
  revert short
  decide +kernel

end ImageFs
