import ImageFs.Error
import ImageFs.Text.Lossy

/-!
Fields of records: bounds-checked reading and writing of byte ranges, and names that are padded
with zero bytes.
-/

namespace ImageFs.Field

/-- The bytes from `offset` on. A range behind the last 64-bit offset is refused before its length
is compared with the bytes at hand. -/
def slice (bytes : Bytes) (offset count : Nat) : Except RecordError Bytes :=
  if Limit.word64 ≤ offset + count then .error (.badField "offset" "overflow")
  else if bytes.length < offset + count then
    .error (.tooShort count offset (bytes.length - offset))
  else .ok ((bytes.drop offset).take count)

def write (bytes : Bytes) (offset : Nat) (patch : Bytes) : Except RecordError Bytes :=
  (slice bytes offset patch.length).map fun _ => bytes.overlay offset patch

def readWord32 (bytes : Bytes) (offset : Nat) : Except RecordError UInt32 :=
  (slice bytes offset 4).map Bytes.toUInt32

def readWord64 (bytes : Bytes) (offset : Nat) : Except RecordError UInt64 :=
  (slice bytes offset 8).map Bytes.toUInt64

/-- Writes fields one after the other, up to the first that does not fit. -/
def writeAll : List (Nat × Bytes) → Bytes → Except RecordError Unit × Bytes
  | [], bytes => (.ok (), bytes)
  | (offset, patch) :: rest, bytes =>
      match write bytes offset patch with
      | .ok written => writeAll rest written
      | .error error => (.error error, bytes)

theorem slice_of_le {bytes : Bytes} {offset count : Nat}
    (fits : offset + count ≤ bytes.length) (bound : offset + count < Limit.word64) :
    slice bytes offset count = .ok ((bytes.drop offset).take count) := by
  have notWide : ¬ Limit.word64 ≤ offset + count := Nat.not_le.mpr bound
  have notLong : ¬ bytes.length < offset + count := by omega
  simp [slice, notWide, notLong]

theorem slice_whole {bytes : Bytes} {count : Nat} (length : bytes.length = count)
    (bound : count < Limit.word64) : slice bytes 0 count = .ok bytes := by
  rw [slice_of_le (by omega) (by omega), List.drop_zero, List.take_of_length_le (Nat.le_of_eq length)]

theorem write_of_le {bytes : Bytes} {offset : Nat} {patch : Bytes}
    (fits : offset + patch.length ≤ bytes.length) (bound : offset + patch.length < Limit.word64) :
    write bytes offset patch = .ok (bytes.overlay offset patch) := by
  rw [write, slice_of_le fits bound]
  rfl

/-! Padded names -/

/-- A name must leave at least one zero byte in its field. -/
def checkName (width : Nat) (name : Bytes) : Except RecordError Unit :=
  if width ≤ name.length then .error (.badField "name" "does not fit NUL-padded field")
  else .ok ()

def padded (width : Nat) (name : Bytes) : Bytes :=
  name ++ Bytes.zeros (width - name.length)

/-- The field of `width` bytes that holds a name. -/
def padName (width : Nat) (name : Bytes) : Except RecordError Bytes := do
  checkName width name
  return padded width name

/-- Writes a padded name into a field. The name is judged before the place of the field. -/
def writeName (bytes : Bytes) (offset width : Nat) (name : Bytes) : Except RecordError Bytes := do
  checkName width name
  let _ ← slice bytes offset width
  return bytes.overlay offset (padded width name)

/-- The text of a padded name. -/
def nameText (field : Bytes) : String :=
  Text.ofBytes field.beforeZero

theorem length_padName {width : Nat} {name field : Bytes}
    (filled : padName width name = .ok field) : field.length = width := by
  simp only [padName, checkName, bind, Except.bind] at filled
  split at filled
  · simp at filled
  · next fits =>
    split at fits
    · cases fits
    · cases filled
      simp only [padded, List.length_append, Bytes.length_zeros]
      omega

end ImageFs.Field
