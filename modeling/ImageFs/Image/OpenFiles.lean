import ImageFs.Error

/-!
The table of open files. A handle is the index of a slot; a new file takes the lowest free slot, and
free slots at the end are dropped.
-/

namespace ImageFs

inductive AccessMode where
  | readOnly
  | writeOnly
  | readWrite
  | append
deriving DecidableEq, Repr

/-- Reading is allowed in every mode. -/
def AccessMode.canWrite : AccessMode → Bool
  | readOnly => false
  | _ => true

/-- An open file. The generation of its inode slot tells whether the file has been removed since. -/
structure OpenFile where
  inode : Nat
  generation : UInt8
  name : String
  offset : Nat
  mode : AccessMode
deriving DecidableEq, Repr

structure OpenFiles where
  slots : List (Option OpenFile)
deriving DecidableEq, Repr

namespace OpenFiles

def empty : OpenFiles :=
  ⟨[]⟩

/-- The lowest index without a file. -/
def lowestFree (slots : List (Option OpenFile)) : Nat :=
  slots.findIdx Option.isNone

/-- Puts a file into a slot, which may be the one behind the last. -/
def place (slots : List (Option OpenFile)) (index : Nat) (file : OpenFile) :
    List (Option OpenFile) :=
  if index < slots.length then slots.set index (some file) else slots ++ [some file]

/-- Enters a file and returns its handle, if that is one. -/
def insert (files : OpenFiles) (file : OpenFile) : Except FsError Nat × OpenFiles :=
  let index := lowestFree files.slots
  let answer :=
    if index < Limit.word32 then .ok index
    else .error (.misfit (.described "open-file table overflow"))
  (answer, ⟨place files.slots index file⟩)

def get? (files : OpenFiles) (handle : Nat) : Option OpenFile :=
  (files.slots[handle]?).join

def get (files : OpenFiles) (handle : Nat) : Except FsError OpenFile :=
  match files.get? handle with
  | some file => .ok file
  | none => .error (.unknownHandle handle)

/-- Moves the offset of an open file. -/
def setOffset (files : OpenFiles) (handle offset : Nat) : Except FsError OpenFiles :=
  match files.get? handle with
  | some file => .ok ⟨files.slots.set handle (some { file with offset })⟩
  | none => .error (.unknownHandle handle)

def dropTrailing (slots : List (Option OpenFile)) : List (Option OpenFile) :=
  (slots.reverse.dropWhile Option.isNone).reverse

def remove (files : OpenFiles) (handle : Nat) : Except FsError (OpenFile × OpenFiles) :=
  match files.get? handle with
  | some file => .ok (file, ⟨dropTrailing (files.slots.set handle none)⟩)
  | none => .error (.unknownHandle handle)

/-- The number of open files. -/
def count (files : OpenFiles) : Nat :=
  files.slots.countP Option.isSome

end OpenFiles

end ImageFs
