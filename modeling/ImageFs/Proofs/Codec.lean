import ImageFs.Path
import ImageFs.Record.DirEntry
import ImageFs.Record.Inode
import ImageFs.Proofs.ReadAfterWrite

/-!
The records of inodes and directory entries whose names fit. Main statements: parsing a record gives
back what was encoded, and a record carries exactly the name of its entry.
-/

namespace ImageFs

namespace Text

theorem encoded_ne_zero {char : Char} (notZero : char ≠ '\x00') {byte : UInt8}
    (member : byte ∈ String.utf8EncodeChar char) : byte ≠ 0 := by
  have positive : char.val.toNat ≠ 0 := by
    intro zero
    exact notZero (Char.ext (UInt32.toNat_inj.mp zero))
  have nonzero {n : Nat} (bound : n < 256) (different : n ≠ 0) : UInt8.ofNat n ≠ 0 := by
    intro same
    have equal := congrArg UInt8.toNat same
    rw [UInt8.toNat_ofNat', Nat.mod_eq_of_lt bound] at equal
    exact different equal
  rw [String.utf8EncodeChar] at member
  split at member
  · simp only [List.mem_singleton] at member
    subst member
    exact nonzero (by omega) positive
  · split at member
    · simp only [List.mem_cons, List.not_mem_nil, or_false] at member
      rcases member with rfl | rfl <;> exact nonzero (by omega) (by omega)
    · split at member
      · simp only [List.mem_cons, List.not_mem_nil, or_false] at member
        rcases member with rfl | rfl | rfl <;> exact nonzero (by omega) (by omega)
      · simp only [List.mem_cons, List.not_mem_nil, or_false] at member
        rcases member with rfl | rfl | rfl | rfl <;> exact nonzero (by omega) (by omega)

theorem length_bytesOf (text : String) : (bytesOf text).length = text.utf8ByteSize := by
  rw [← String.size_toByteArray, ← String.utf8Encode_toList, List.utf8Encode,
    List.size_toByteArray, bytesOf]

theorem bytesOf_inj {first second : String} : bytesOf first = bytesOf second ↔ first = second := by
  constructor
  · intro same
    rw [← ofBytes_bytesOf first, same, ofBytes_bytesOf]
  · exact congrArg bytesOf

end Text

/-! Names -/

/-- The name can be padded with zeros and read back. -/
structure NameFits (name : String) : Prop where
  noZero : '\x00' ∉ name.toList
  short : name.utf8ByteSize ≤ Path.maxNameLength

namespace Field

variable {name : String} {width : Nat}

theorem padName_of_fits (fits : NameFits name) (wide : Path.maxNameLength < width) :
    padName width (Text.bytesOf name) = .ok (padded width (Text.bytesOf name)) := by
  have short := fits.short
  have notLong : ¬ width ≤ (Text.bytesOf name).length := by
    rw [Text.length_bytesOf]
    omega
  rw [padName, checkName, if_neg notLong]
  rfl

theorem length_padded (fits : NameFits name) (wide : Path.maxNameLength < width) :
    (padded width (Text.bytesOf name)).length = width := by
  have short := fits.short
  rw [padded, List.length_append, Bytes.length_zeros, Text.length_bytesOf]
  omega

theorem beforeZero_padded (noZero : '\x00' ∉ name.toList) :
    (padded width (Text.bytesOf name)).beforeZero = Text.bytesOf name := by
  have nonzero : ∀ byte ∈ Text.bytesOf name, (byte != 0) = true := by
    intro byte member
    obtain ⟨char, isChar, isByte⟩ := List.mem_flatMap.mp member
    refine bne_iff_ne.mpr (Text.encoded_ne_zero (fun zero => noZero ?_) isByte)
    rwa [← zero]
  rw [Bytes.beforeZero, padded, List.takeWhile_append_of_pos nonzero, Bytes.zeros,
    List.takeWhile_replicate]
  simp

theorem nameText_padded (noZero : '\x00' ∉ name.toList) :
    nameText (padded width (Text.bytesOf name)) = name := by
  rw [nameText, beforeZero_padded noZero, Text.ofBytes_bytesOf]

end Field

/-! Inodes -/

namespace Inode

def record (inode : Inode) : Bytes :=
  Field.padded nameWidth (Text.bytesOf inode.name) ++ [inode.kind.toByte, inode.generation] ++
    .ofUInt64 inode.size ++ .ofUInt64 inode.firstBlock

variable {inode : Inode}

theorem encode_of_fits (fits : NameFits inode.name) : inode.encode = .ok inode.record := by
  rw [encode, Field.padName_of_fits fits (by decide)]
  rfl

theorem length_record (fits : NameFits inode.name) : inode.record.length = 256 :=
  length_encode (encode_of_fits fits)

/-- All of an inode is read back, but of its name only what stands before a zero. -/
theorem parse_encode {record : Bytes} (encoded : inode.encode = .ok record) :
    parse record = .ok { inode with name := Field.nameText (record.take nameWidth) } := by
  have whole := Field.slice_whole (length_encode encoded) (by decide)
  rw [encode] at encoded
  cases padded : Field.padName nameWidth (Text.bytesOf inode.name) with
  | error error =>
      rw [padded] at encoded
      cases encoded
  | ok name =>
      rw [padded] at encoded
      have isRecord : record = name ++ [inode.kind.toByte, inode.generation] ++
        .ofUInt64 inode.size ++ .ofUInt64 inode.firstBlock := (Except.ok.inj encoded).symm
      have nameLength : name.length = 238 := Field.length_padName padded
      have front : (name ++ [inode.kind.toByte, inode.generation]).length = 240 := by
        rw [List.length_append, nameLength]
        rfl
      have front' : (name ++ [inode.kind.toByte, inode.generation] ++
          Bytes.ofUInt64 inode.size).length = 248 := by
        rw [List.length_append, front, Bytes.length_ofUInt64]
      have kind : (record.drop 238).headD 0 = inode.kind.toByte := by
        simp [isRecord, nameLength]
      have generation : (record.drop 239).headD 0 = inode.generation := by
        simp [isRecord, List.drop_append, nameLength]
      have size : (record.drop 240).take 8 = Bytes.ofUInt64 inode.size := by
        rw [isRecord, List.append_assoc, List.drop_left' front,
          List.take_left' (Bytes.length_ofUInt64 _)]
      have firstBlock : (record.drop 248).take 8 = Bytes.ofUInt64 inode.firstBlock := by
        rw [isRecord, List.drop_left' front',
          List.take_of_length_le (Nat.le_of_eq (Bytes.length_ofUInt64 _))]
      simp only [parse, whole, kind, generation, size, firstBlock, InodeKind.ofByte_toByte, bind,
        Except.bind, pure, Except.pure, Bytes.toUInt64_ofUInt64]

theorem parse_record (fits : NameFits inode.name) : parse inode.record = .ok inode := by
  have name : inode.record.take nameWidth = Field.padded nameWidth (Text.bytesOf inode.name) := by
    have nameLength : (Field.padded 238 (Text.bytesOf inode.name)).length = 238 :=
      Field.length_padded fits (by decide)
    simp [record, nameLength]
  rw [parse_encode (encode_of_fits fits), name, Field.nameText_padded fits.noZero]

end Inode

/-! Directory entries -/

namespace DirEntry

def record (entry : DirEntry) : Bytes :=
  Field.padded nameWidth (Text.bytesOf entry.name) ++ .ofUInt64 entry.inode

variable {entry : DirEntry}

theorem encode_of_fits (fits : NameFits entry.name) : entry.encode = .ok entry.record := by
  rw [encode, Field.padName_of_fits fits (by decide)]
  rfl

theorem length_record (fits : NameFits entry.name) : entry.record.length = 256 :=
  length_encode (encode_of_fits fits)

theorem take_record (fits : NameFits entry.name) :
    entry.record.take nameWidth = Field.padded nameWidth (Text.bytesOf entry.name) := by
  have nameLength : (Field.padded 248 (Text.bytesOf entry.name)).length = 248 :=
    Field.length_padded fits (by decide)
  simp [record, nameLength]

theorem parse_record (fits : NameFits entry.name) : parse entry.record = .ok entry := by
  have whole := Field.slice_whole (length_record fits) (by decide)
  have nameLength : (Field.padded 248 (Text.bytesOf entry.name)).length = 248 :=
    Field.length_padded fits (by decide)
  have inode : (entry.record.drop 248).take 8 = Bytes.ofUInt64 entry.inode := by
    rw [record, List.drop_left' nameLength, List.take_of_length_le (Nat.le_of_eq (Bytes.length_ofUInt64 _))]
  simp only [parse, whole, take_record fits, inode, bind, Except.bind, pure, Except.pure,
    nameWidth, Field.nameText_padded fits.noZero, Bytes.toUInt64_ofUInt64]

theorem hasName_record (fits : NameFits entry.name) (name : String) :
    hasName entry.record name = decide (entry.name = name) := by
  have length := length_record fits
  have long : nameWidth ≤ entry.record.length := by
    rw [length]
    decide
  rw [hasName, take_record fits, Field.beforeZero_padded fits.noZero, decide_eq_true long, Bool.true_and,
    Bool.beq_eq_decide_eq]
  exact decide_eq_decide.mpr Text.bytesOf_inj

end DirEntry

end ImageFs
