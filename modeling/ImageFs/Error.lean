import ImageFs.Host.Error
import ImageFs.Limit
import ImageFs.Text.Quoted

/-!
The errors of the file system, as causes. The wording of each is in one function, and so is the
error number that a caller of a POSIX interface expects.
-/

namespace ImageFs

/-! Records -/

/-- Why a byte string is not a record of the image format. -/
inductive RecordError where
  | tooShort (needed offset available : Nat)
  | wrongMagic (expected found : Nat)
  | badField (field reason : String)
  | conversion (field : String)
deriving DecidableEq, Repr

def RecordError.message : RecordError → String
  | tooShort needed offset available =>
      s!"insufficient data: need {needed} bytes at offset {offset}, got {available}"
  | wrongMagic expected found =>
      s!"invalid magic: expected {Text.hex expected}, got {Text.hex found}"
  | badField field reason => s!"invalid field: {field} ({reason})"
  | conversion field => s!"integer conversion failed: {field}"

/-! Damage -/

/-- What is wrong with the metadata at a block. -/
inductive Damage where
  | record (cause : RecordError)
  | notDataBlock (first stop : Nat)
  | beyondImage (total : Nat)
  | beyondChain (start stop capacity : Nat)
  | chainLoops (first : Nat)
  | emptyChain
  | reservedBlock
  | blockNotAllocated
  | freeCountTooHigh (free freed : Nat)
  | bitmapRange (start count : Nat)
  | bitmapByte (index : Nat)
  | outsideTable (inode slots : Nat)
  | cursorReserved (inode : Nat)
  | cursorLive (inode : Nat)
  | inodeReserved (inode : Nat)
  | inodeEmpty (inode : Nat)
  | directorySize (size : Nat)
  | entryMissing (slot : Nat)
  | entryDangling (name : String) (inode : Nat)
  | tooManyHolders
  | described (detail : String)
deriving DecidableEq, Repr

def Damage.message : Damage → String
  | record cause => cause.message
  | notDataBlock first stop => s!"not a data block (data area is {first}..{stop})"
  | beyondImage total => s!"block beyond image end {total}"
  | beyondChain start stop capacity =>
      s!"byte range {start}..{stop} exceeds chain capacity {capacity}"
  | chainLoops first => s!"chain starting at {first} loops"
  | emptyChain => "cannot free the tail of an empty chain"
  | reservedBlock => "refusing to free reserved block"
  | blockNotAllocated => "freeing a block that is not allocated"
  | freeCountTooHigh free freed => s!"free count {free} + {freed} exceeds usable blocks"
  | bitmapRange start count => s!"bitmap write past end: {start}+{count}"
  | bitmapByte index => s!"bitmap byte {index} out of range"
  | outsideTable inode slots => s!"inode {inode} outside table of {slots} slots"
  | cursorReserved inode => s!"free-inode cursor points at reserved inode {inode}"
  | cursorLive inode => s!"free-inode cursor points at live inode {inode}"
  | inodeReserved inode => s!"inode {inode} is reserved and cannot be freed"
  | inodeEmpty inode => s!"inode {inode} is empty"
  | directorySize size => s!"directory size {size} is not a multiple of 256"
  | entryMissing slot => s!"entry slot {slot} out of range"
  | entryDangling name inode =>
      s!"entry {Text.quote name} points at empty inode {inode}"
  | tooManyHolders => "directory mutex counter overflow"
  | described detail => detail

/-! Unusable images and requests -/

inductive Access where
  | read
  | write
deriving DecidableEq, Repr

def Access.word : Access → String
  | read => "read"
  | write => "write"

/-- Why a host file is no image, or a request does not fit the image. -/
inductive Misfit where
  | record (cause : RecordError)
  | addressSpace (blocks blockSize : Nat)
  | noSuperblock (path : String)
  | fileTooShort (length needed : Nat)
  | rangeOverflow (access : Access)
  | outOfBounds (access : Access) (offset count length : Nat)
  | lockStart (start : Nat)
  | lockLength (length : Nat)
  | payloadTooLong (count capacity : Nat)
  | emptyKind
  | writeOverflow
  | described (reason : String)
deriving DecidableEq, Repr

def Misfit.message : Misfit → String
  | record cause => cause.message
  | addressSpace blocks blockSize =>
      s!"{blocks} blocks of {blockSize} bytes overflow the address space"
  | noSuperblock path => s!"{path} is too short to hold a superblock"
  | fileTooShort length needed => s!"backing file is {length} bytes, geometry needs {needed}"
  | rangeOverflow access => s!"{access.word} range overflows u64"
  | outOfBounds access offset count length =>
      s!"{access.word} out of bounds: offset={offset} len={count} file_len={length}"
  | lockStart start => s!"lock offset {start} overflows off_t"
  | lockLength length => s!"lock length {length} overflows off_t"
  | payloadTooLong count capacity =>
      s!"payload of {count} bytes exceeds block payload {capacity}"
  | emptyKind => "cannot create an Empty inode"
  | writeOverflow => "write range overflows u64"
  | described reason => reason

/-! All errors -/

inductive FsError where
  | host (cause : HostError)
  | corrupt (block : Nat) (damage : Damage)
  | misfit (reason : Misfit)
  | blockSizeTooSmall (size : Nat)
  | blockSizeUneven (size : Nat)
  | noBlocks
  | hostFile (path : String) (cause : HostError)
  | alreadyExists
  | badMagic (found : Nat)
  | noSuchFile (path : String)
  | noSuchDirectory (path : String)
  | noParent (path : String)
  | nameTooLong
  | invalidPath (path : String)
  | notDirectory
  | isDirectory
  | noFreeBlocks
  | noFreeInodes
  | directoryNotEmpty
  | wrongMode
  | unknownHandle (handle : Nat)
deriving DecidableEq, Repr

namespace FsError

def message : FsError → String
  | host cause => s!"I/O error: {cause.message}"
  | corrupt block damage => s!"corrupt metadata at block {block}: {damage.message}"
  | misfit reason => s!"invalid image format: {reason.message}"
  | blockSizeTooSmall size => s!"block size {size} is below the 1024-byte minimum"
  | blockSizeUneven size => s!"block size {size} is not a multiple of the 256-byte inode record"
  | noBlocks => "number of blocks must be greater than zero"
  | hostFile path cause => s!"cannot access host file {path}: {cause.message}"
  | alreadyExists => "file already exists"
  | badMagic found => s!"bad magic number {Text.hex found}"
  | noSuchFile path => s!"no such file: {path}"
  | noSuchDirectory path => s!"no such directory: {path}"
  | noParent path => s!"parent directory does not exist: {path}"
  | nameTooLong => "name too long"
  | invalidPath path => s!"invalid path: {path}"
  | notDirectory => "not a directory"
  | isDirectory => "is a directory"
  | noFreeBlocks => "no free blocks"
  | noFreeInodes => "no free inodes"
  | directoryNotEmpty => "directory not empty"
  | wrongMode => "handle not opened for this operation"
  | unknownHandle handle => s!"unknown file descriptor {handle}"

/-- The POSIX error number. A host failure keeps its own; one without a number is an input/output
error, or a refused access when the host file could not be reached at all. -/
def errno : FsError → Int
  | host cause => cause.code?.getD 5
  | corrupt _ _ => 5
  | misfit _ | blockSizeTooSmall _ | blockSizeUneven _ | noBlocks | badMagic _
  | invalidPath _ => 22
  | hostFile _ cause => cause.code?.getD 13
  | alreadyExists => 17
  | noSuchFile _ | noSuchDirectory _ | noParent _ => 2
  | nameTooLong => 36
  | notDirectory => 20
  | isDirectory => 21
  | noFreeBlocks | noFreeInodes => 28
  | directoryNotEmpty => 39
  | wrongMode | unknownHandle _ => 9

/-- The message followed by the messages of what caused it. -/
def trace : FsError → List String
  | host cause => [(host cause).message, cause.message]
  | hostFile path cause => [(hostFile path cause).message, cause.message]
  | error => [error.message]

end FsError

namespace RecordError

/-- A bad record in a live image is damage at the block that holds it. -/
def toCorrupt (block : Nat) (error : RecordError) : FsError :=
  .corrupt block (.record error)

/-- A bad record at the start of a file tells that the file is no image. The magic number has an
error of its own, which shows at most 32 bits of what was found. -/
def toMisfit : RecordError → FsError
  | wrongMagic _ found => .badMagic (min found (Limit.word32 - 1))
  | error => .misfit (.record error)

end RecordError

end ImageFs
