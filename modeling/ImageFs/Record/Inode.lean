import ImageFs.Record.Field

/-!
Inode records of 256 bytes: a padded name, the kind of node, the generation of the slot, the size
and the first block of the chain.
-/

namespace ImageFs

inductive InodeKind where
  | empty
  | directory
  | file
deriving DecidableEq, Repr

namespace InodeKind

def toByte : InodeKind → UInt8
  | empty => 0
  | directory => 68
  | file => 70

def ofByte (byte : UInt8) : Except RecordError InodeKind :=
  if byte = 0 then .ok empty
  else if byte = 68 then .ok directory
  else if byte = 70 then .ok file
  else .error (.badField "inode_kind" "expected 0, 'D' or 'F'")

@[simp] theorem ofByte_toByte (kind : InodeKind) : ofByte kind.toByte = .ok kind := by
  cases kind <;> rfl

theorem toByte_of_ofByte {byte : UInt8} {kind : InodeKind} (read : ofByte byte = .ok kind) :
    kind.toByte = byte := by
  simp only [ofByte] at read
  split at read
  · next zero => cases read; exact zero.symm
  · split at read
    · next letter => cases read; exact letter.symm
    · split at read
      · next letter => cases read; exact letter.symm
      · simp at read

end InodeKind

/-- One slot of the inode table. The generation counts how often the slot has been emptied. -/
structure Inode where
  name : String
  kind : InodeKind
  generation : UInt8
  size : UInt64
  firstBlock : UInt64
deriving DecidableEq, Repr

namespace Inode

abbrev nameWidth : Nat := 238

def new (name : String) (kind : InodeKind) : Inode where
  name := name
  kind := kind
  generation := 0
  size := 0
  firstBlock := 0

def empty : Inode :=
  new "" .empty

def isDirectory (inode : Inode) : Bool :=
  inode.kind = .directory

def isEmpty (inode : Inode) : Bool :=
  inode.kind = .empty

def parse (bytes : Bytes) : Except RecordError Inode := do
  let record ← Field.slice bytes 0 256
  let kind ← InodeKind.ofByte ((record.drop 238).headD 0)
  return {
    name := Field.nameText (record.take nameWidth)
    kind
    generation := (record.drop 239).headD 0
    size := Bytes.toUInt64 ((record.drop 240).take 8)
    firstBlock := Bytes.toUInt64 ((record.drop 248).take 8) }

def encode (inode : Inode) : Except RecordError Bytes := do
  let name ← Field.padName nameWidth (Text.bytesOf inode.name)
  return name ++ [inode.kind.toByte, inode.generation] ++
    .ofUInt64 inode.size ++ .ofUInt64 inode.firstBlock

theorem length_encode {inode : Inode} {record : Bytes} (encoded : inode.encode = .ok record) :
    record.length = 256 := by
  simp only [encode, bind, Except.bind] at encoded
  split at encoded
  · simp at encoded
  · next name padded =>
    cases encoded
    simp [Field.length_padName padded]

end Inode

end ImageFs
