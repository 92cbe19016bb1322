import ImageFs.Record.Field

/-!
Directory entries of 256 bytes: a padded name and the number of an inode.
-/

namespace ImageFs

structure DirEntry where
  name : String
  inode : UInt64
deriving DecidableEq, Repr

namespace DirEntry

abbrev nameWidth : Nat := 248

def parse (bytes : Bytes) : Except RecordError DirEntry := do
  let record ← Field.slice bytes 0 256
  return {
    name := Field.nameText (record.take nameWidth)
    inode := Bytes.toUInt64 ((record.drop nameWidth).take 8) }

def encode (entry : DirEntry) : Except RecordError Bytes := do
  let name ← Field.padName nameWidth (Text.bytesOf entry.name)
  return name ++ .ofUInt64 entry.inode

theorem length_encode {entry : DirEntry} {record : Bytes} (encoded : entry.encode = .ok record) :
    record.length = 256 := by
  simp only [encode, bind, Except.bind] at encoded
  split at encoded
  · simp at encoded
  · next name padded =>
    cases encoded
    simp [Field.length_padName padded]

/-- Whether an undecoded record carries exactly this name. -/
def hasName (record : Bytes) (name : String) : Bool :=
  nameWidth ≤ record.length && Bytes.beforeZero (record.take nameWidth) == Text.bytesOf name

end DirEntry

end ImageFs
